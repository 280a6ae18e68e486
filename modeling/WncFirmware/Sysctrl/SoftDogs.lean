import WncFirmware.Foundation.Bytes

/-!
# The software watchdog

Each of four threads counts up a byte of `thread_soft_dogs` when it is alive.
Once a minute `check_threads_alive` looks for a zero and clears the bytes.
-/

namespace WncFirmware.Sysctrl

open WncFirmware.Foundation

inductive ThreadsSoftDog where
  | loraRecvDog
  | loraSendDog
  | dataProcDog
  | udpClintDog
  deriving DecidableEq, Repr

namespace ThreadsSoftDog

def all : List ThreadsSoftDog :=
  [loraRecvDog, loraSendDog, dataProcDog, udpClintDog]

theorem mem_all (dog : ThreadsSoftDog) : dog ∈ all := by
  cases dog <;> decide

def threadName : ThreadsSoftDog → Bytes
  | loraRecvDog => ascii "lora_recv"
  | loraSendDog => ascii "lora_send"
  | dataProcDog => ascii "data_porc"
  | udpClintDog => ascii "udp_serv"

end ThreadsSoftDog

inductive RtErr where
  | eok
  | error
  deriving DecidableEq, Repr

abbrev SoftDogs := ThreadsSoftDog → UInt8

def SoftDogs.cleared : SoftDogs := fun _ => 0

def threadsFeedDog (dogs : SoftDogs) (index : ThreadsSoftDog) : SoftDogs :=
  fun dog => if dog = index then dogs dog + 1 else dogs dog

/-- The result, the lines for the system log and the bytes afterwards. -/
def checkThreadsAlive (dogs : SoftDogs) : RtErr × List Bytes × SoftDogs :=
  let dead := ThreadsSoftDog.all.filter fun dog => dogs dog = 0
  (if dead.isEmpty then .eok else .error,
    dead.map fun dog => ascii "thread " ++ dog.threadName ++ ascii " is dead",
    .cleared)

theorem checkThreadsAlive_eok_iff (dogs : SoftDogs) :
    (checkThreadsAlive dogs).1 = .eok ↔ ∀ dog, dogs dog ≠ 0 := by
  have hdead : (ThreadsSoftDog.all.filter fun dog => dogs dog = 0) = [] ↔
      ∀ dog, dogs dog ≠ 0 := by
    simp [List.filter_eq_nil_iff, ThreadsSoftDog.mem_all]
  rw [← hdead, checkThreadsAlive]
  cases ThreadsSoftDog.all.filter fun dog => dogs dog = 0 with
  | nil => simp
  | cons dog dogs => simp

/-! ## Runs -/

inductive DogCall where
  | feed (dog : ThreadsSoftDog)
  | check
  deriving DecidableEq, Repr

def dogStep (dogs : SoftDogs) : DogCall → SoftDogs
  | .feed dog => threadsFeedDog dogs dog
  | .check => (checkThreadsAlive dogs).2.2

def softDogs (calls : List DogCall) : SoftDogs :=
  calls.foldl dogStep .cleared

def countFeed (dog : ThreadsSoftDog) (count : Nat) : DogCall → Nat
  | .feed index => if dog = index then count + 1 else count
  | .check => 0

def feedsSinceCheck (calls : List DogCall) (dog : ThreadsSoftDog) : Nat :=
  calls.foldl (countFeed dog) 0

/-- One byte per thread: what it holds is the count without its multiples of 256. -/
def CountsFeeds (dogs : SoftDogs) (dog : ThreadsSoftDog) (count : Nat) : Prop :=
  dogs dog = UInt8.ofNat count

theorem dogStep_countsFeeds {dogs : SoftDogs} {dog : ThreadsSoftDog}
    {count : Nat} (h : CountsFeeds dogs dog count) (call : DogCall) :
    CountsFeeds (dogStep dogs call) dog (countFeed dog count call) := by
  cases call with
  | feed index =>
      by_cases hdog : dog = index
      · simp [CountsFeeds, dogStep, threadsFeedDog, countFeed, hdog,
          ← show dogs dog = UInt8.ofNat count from h]
      · simpa [CountsFeeds, dogStep, threadsFeedDog, countFeed, hdog] using h
  | check => rfl

theorem softDogs_countsFeeds (calls : List DogCall) (dog : ThreadsSoftDog) :
    CountsFeeds (softDogs calls) dog (feedsSinceCheck calls dog) := by
  have hrun : ∀ (dogs : SoftDogs) (count : Nat), CountsFeeds dogs dog count →
      CountsFeeds (calls.foldl dogStep dogs) dog
        (calls.foldl (countFeed dog) count) := by
    induction calls with
    | nil => exact fun _ _ h => h
    | cons call calls ih =>
        intro dogs count h
        exact ih _ _ (dogStep_countsFeeds h call)
  exact hrun .cleared 0 rfl

theorem softDogs_eq_zero_iff (calls : List DogCall) (dog : ThreadsSoftDog) :
    softDogs calls dog = 0 ↔ feedsSinceCheck calls dog % 256 = 0 := by
  rw [softDogs_countsFeeds calls dog, ← UInt8.toNat_inj]
  simp

/-! ## The verdict -/

/-- A check after `calls` says that all threads are alive exactly if all have fed. -/
def VerdictRight (calls : List DogCall) : Prop :=
  (checkThreadsAlive (softDogs calls)).1 = .eok ↔
    ∀ dog, 0 < feedsSinceCheck calls dog

theorem verdict_right_iff (calls : List DogCall) :
    VerdictRight calls ↔
      ((∀ dog, 0 < feedsSinceCheck calls dog) →
        ∀ dog, feedsSinceCheck calls dog % 256 ≠ 0) := by
  have hverdict : (checkThreadsAlive (softDogs calls)).1 = .eok ↔
      ∀ dog, feedsSinceCheck calls dog % 256 ≠ 0 := by
    rw [checkThreadsAlive_eok_iff]
    simp only [ne_eq, softDogs_eq_zero_iff]
  rw [VerdictRight, hverdict]
  refine ⟨fun hright => hright.mpr, fun hfed => ⟨?_, hfed⟩⟩
  intro halive dog
  apply Nat.pos_of_ne_zero
  intro hnone
  exact halive dog (by rw [hnone])

/-- The receiver feeds 256 times in a minute, the other threads once. -/
def busyMinute : List DogCall :=
  List.replicate 256 (.feed .loraRecvDog) ++
    [.feed .loraSendDog, .feed .dataProcDog, .feed .udpClintDog]

theorem busy_minute_false_alarm : ¬VerdictRight busyMinute := by
  intro hright
  have hfed : ∀ dog, 0 < feedsSinceCheck busyMinute dog := by
    intro dog
    cases dog <;> decide +kernel
  have halarm : (checkThreadsAlive (softDogs busyMinute)).1 = .error := by
    decide +kernel
  rw [hright.mpr hfed] at halarm
  cases halarm

end WncFirmware.Sysctrl
