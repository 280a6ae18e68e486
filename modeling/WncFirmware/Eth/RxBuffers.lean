import Mathlib.Data.List.Induction
import WncFirmware.Eth.TxBuffers

/-!
# Receive buffers of the Ethernet driver

`gd32f20x_eth.c`: the DMA fills the descriptors in turn, `rt_gd32_eth_rx` takes
one of them and gives it back.  Together they are a queue of four frames.
-/

namespace WncFirmware.Eth

open WncFirmware.Foundation

def ethRxbufnb : Nat := 4

def ethDmarxdescBusy : UInt32 := 0x80000000
def ethDmarxdescFrml : UInt32 := 0x3fff0000
def ethDmarxdescErrs : UInt32 := 0x00008000
def ethDmarxdescFdes : UInt32 := 0x00000200
def ethDmarxdescLdes : UInt32 := 0x00000100

structure RxDesc where
  status : UInt32
  buffer : Bytes
  deriving DecidableEq, Repr

namespace RxDesc

def busy (desc : RxDesc) : Bool := desc.status &&& ethDmarxdescBusy != 0

def whole (desc : RxDesc) : Bool :=
  desc.status &&& ethDmarxdescErrs == 0 &&
    desc.status &&& ethDmarxdescLdes != 0 &&
    desc.status &&& ethDmarxdescFdes != 0

def frame (desc : RxDesc) : Bytes :=
  slice desc.buffer 0 (((desc.status &&& ethDmarxdescFrml) >>> 16) - 4).toNat

def received (desc : RxDesc) (allocated : Bool) : Option Bytes :=
  if desc.whole && allocated then some desc.frame else none

/-- The DMA writes the status last, without the bit of its ownership. -/
def filled (status : UInt32) (buffer : Bytes) : RxDesc :=
  ⟨status &&& ~~~ethDmarxdescBusy, buffer⟩

def givenBack (desc : RxDesc) : RxDesc := { desc with status := ethDmarxdescBusy }

@[simp] theorem filled_busy (status : UInt32) (buffer : Bytes) :
    (filled status buffer).busy = false := by
  have hmask : ~~~ethDmarxdescBusy &&& ethDmarxdescBusy = 0 := by decide
  simp only [busy, filled]
  rw [UInt32.and_assoc, hmask]
  simp

@[simp] theorem givenBack_busy (desc : RxDesc) : desc.givenBack.busy = true := by
  simp only [busy, givenBack]
  decide

end RxDesc

structure RxState where
  dmaRxDscrTab : Nat → RxDesc
  dmaCurrentRxDesc : Nat
  dmaRxDesc : Nat
  rbu : Bool

def RxState.setDesc (eth : RxState) (place : Nat) (desc : RxDesc) :
    Nat → RxDesc :=
  fun other => if other = place then desc else eth.dmaRxDscrTab other

/-- A frame comes in; without a free descriptor it is lost. -/
def frameArrives (eth : RxState) (status : UInt32) (buffer : Bytes) : RxState :=
  let place := eth.dmaRxDesc
  if (eth.dmaRxDscrTab place).busy then
    { eth with
      dmaRxDscrTab := eth.setDesc place (.filled status buffer)
      dmaRxDesc := nextPlace ethRxbufnb place }
  else { eth with rbu := true }

def rtGd32EthRx (eth : RxState) (allocated : Bool) : Option Bytes × RxState :=
  let place := eth.dmaCurrentRxDesc
  let desc := eth.dmaRxDscrTab place
  if desc.busy then (none, eth)
  else
    (desc.received allocated, { eth with
      dmaRxDscrTab := eth.setDesc place desc.givenBack
      rbu := if eth.rbu then false else eth.rbu
      dmaCurrentRxDesc := nextPlace ethRxbufnb place })

/-- `ETH_DMARxDescChainModeInit` behind a reset of the DMA. -/
def ethDmaRxDescChainModeInit (eth : RxState) : RxState where
  dmaRxDscrTab := fun place => (eth.dmaRxDscrTab place).givenBack
  dmaCurrentRxDesc := 0
  dmaRxDesc := 0
  rbu := false

inductive RxEvent where
  | arrive (status : UInt32) (buffer : Bytes)
  | read (allocated : Bool)
  | restart
  deriving DecidableEq, Repr

structure RxRun where
  eth : RxState
  delivered : List Bytes

def RxRun.step (run : RxRun) : RxEvent → RxRun
  | .arrive status buffer =>
      { run with eth := frameArrives run.eth status buffer }
  | .read allocated =>
      let result := rtGd32EthRx run.eth allocated
      ⟨result.2, run.delivered ++ result.1.toList⟩
  | .restart => { run with eth := ethDmaRxDescChainModeInit run.eth }

def rxRun (eth : RxState) (events : List RxEvent) : RxRun :=
  events.foldl RxRun.step ⟨ethDmaRxDescChainModeInit eth, []⟩

/-- A turn of the loop: the frames that come in first, and the answer of `pbuf_alloc`. -/
structure RxTurn where
  arrivals : List (UInt32 × Bytes)
  allocated : Bool
  deriving DecidableEq, Repr

structure Wakeup where
  frames : List Bytes
  eth : RxState
  ended : Bool

/-- The loop of `eth_rx_thread_entry`. -/
def receiveAll : List RxTurn → RxState → Wakeup
  | [], eth => ⟨[], eth, false⟩
  | turn :: turns, eth =>
      let arrived := turn.arrivals.foldl
        (fun eth frame => frameArrives eth frame.1 frame.2) eth
      match rtGd32EthRx arrived turn.allocated with
      | (none, eth) => ⟨[], eth, true⟩
      | (some frame, eth) =>
          let later := receiveAll turns eth
          { later with frames := frame :: later.frames }

/-! ## A queue of frames -/

structure RxQueue where
  waiting : List RxDesc
  delivered : List Bytes

/--
Bit 15 of the status says that the frame has an error, bits 9 and 8 that the
buffer is its first and its last one.
-/
def RxDesc.deliverable (desc : RxDesc) : Bool :=
  !desc.status.toBitVec.getLsbD 15 && desc.status.toBitVec.getLsbD 8 &&
    desc.status.toBitVec.getLsbD 9

def RxQueue.note (queue : RxQueue) : RxEvent → RxQueue
  | .arrive status buffer =>
      if queue.waiting.length < ethRxbufnb then
        { queue with waiting := queue.waiting ++ [.filled status buffer] }
      else queue
  | .read allocated =>
      match queue.waiting with
      | [] => queue
      | desc :: later =>
          ⟨later, queue.delivered ++
            if desc.deliverable && allocated then [desc.frame] else []⟩
  | .restart => { queue with waiting := [] }

def rxQueue (events : List RxEvent) : RxQueue :=
  events.foldl RxQueue.note ⟨[], []⟩

structure RxState.Queues (eth : RxState) (waiting : List RxDesc) : Prop where
  taken : TakenFrom ethRxbufnb waiting.length eth.dmaCurrentRxDesc eth.dmaRxDesc
    fun place => !(eth.dmaRxDscrTab place).busy
  holds : ∀ index (h : index < waiting.length),
    eth.dmaRxDscrTab ((eth.dmaCurrentRxDesc + index) % ethRxbufnb) =
      waiting.get ⟨index, h⟩

variable {eth : RxState} {waiting : List RxDesc}

theorem and_twoPow_eq_zero_iff {status mask : UInt32} {place : Nat}
    (hmask : mask.toBitVec = BitVec.twoPow 32 place) (hplace : place < 32) :
    status &&& mask = 0 ↔ status.toBitVec.getLsbD place = false := by
  rw [← UInt32.toBitVec_inj, UInt32.toBitVec_and, hmask, BitVec.and_twoPow]
  cases hbit : status.toBitVec.getLsbD place with
  | false => simp
  | true =>
      simp only [↓reduceIte, Bool.true_eq_false, iff_false]
      intro hzero
      have hset := congrArg (BitVec.getLsbD · place) hzero
      simp [hplace] at hset

theorem RxDesc.whole_eq_deliverable (desc : RxDesc) :
    desc.whole = desc.deliverable := by
  have hbit (mask : UInt32) (place : Nat)
      (hmask : mask.toBitVec = BitVec.twoPow 32 place) (hplace : place < 32) :
      (desc.status &&& mask == 0) = !desc.status.toBitVec.getLsbD place := by
    rw [Bool.eq_iff_iff, beq_iff_eq, and_twoPow_eq_zero_iff hmask hplace]
    simp
  simp only [whole, deliverable, bne,
    hbit ethDmarxdescErrs 15 rfl (by decide),
    hbit ethDmarxdescLdes 8 rfl (by decide),
    hbit ethDmarxdescFdes 9 rfl (by decide), Bool.not_not]

theorem RxDesc.toList_received (desc : RxDesc) (allocated : Bool) :
    (desc.received allocated).toList =
      if desc.deliverable && allocated then [desc.frame] else [] := by
  rw [received, whole_eq_deliverable]
  split <;> rfl

theorem chainModeInit_queues (eth : RxState) :
    (ethDmaRxDescChainModeInit eth).Queues [] where
  taken := by
    simpa [ethDmaRxDescChainModeInit] using
      @TakenFrom.none ethRxbufnb (by decide)
  holds index h := absurd h (Nat.not_lt_zero index)

namespace RxState.Queues

theorem distance_start (h : eth.Queues waiting) :
    distance ethRxbufnb eth.dmaCurrentRxDesc eth.dmaCurrentRxDesc = 0 := by
  have hback := h.taken.back_lt
  have hself := @distance_add _ _ 0 hback (by decide)
  rwa [Nat.add_zero, Nat.mod_eq_of_lt hback] at hself

theorem next_busy_iff (h : eth.Queues waiting) :
    (eth.dmaRxDscrTab eth.dmaRxDesc).busy = true ↔
      waiting.length < ethRxbufnb := by
  have htaken := h.taken.taken_iff _ h.taken.next_lt
  rw [Bool.not_eq_true', ← Bool.not_eq_true] at htaken
  rw [← Decidable.not_iff_not, htaken]
  constructor
  · intro hdistance hroom
    rw [h.taken.next_eq, distance_add h.taken.back_lt hroom] at hdistance
    exact Nat.lt_irrefl _ hdistance
  · intro hfull
    exact Nat.lt_of_lt_of_le (distance_lt (by decide) _ _)
      (Nat.not_lt.mp hfull)

theorem place_eq_iff (h : eth.Queues waiting) {first second : Nat}
    (hfirst : first < ethRxbufnb) (hsecond : second < ethRxbufnb) :
    (eth.dmaCurrentRxDesc + first) % ethRxbufnb =
      (eth.dmaCurrentRxDesc + second) % ethRxbufnb ↔ first = second := by
  constructor
  · intro hsame
    have hdistance := congrArg (distance ethRxbufnb eth.dmaCurrentRxDesc) hsame
    rwa [distance_add h.taken.back_lt hfirst,
      distance_add h.taken.back_lt hsecond] at hdistance
  · rintro rfl
    rfl

theorem frameArrives (h : eth.Queues waiting) (status : UInt32)
    (buffer : Bytes) :
    (frameArrives eth status buffer).Queues
      (if waiting.length < ethRxbufnb then
        waiting ++ [.filled status buffer] else waiting) := by
  simp only [Eth.frameArrives]
  by_cases hroom : waiting.length < ethRxbufnb
  · have hbusy := h.next_busy_iff.mpr hroom
    rw [if_pos hbusy, if_pos hroom]
    refine ⟨?_, fun index hindex => ?_⟩
    · have htaken : (fun place => !(eth.setDesc eth.dmaRxDesc
          (.filled status buffer) place).busy) =
            fun place => place == eth.dmaRxDesc ||
              !(eth.dmaRxDscrTab place).busy := by
        funext place
        by_cases hplace : place = eth.dmaRxDesc <;> simp [setDesc, hplace]
      simp only [htaken, List.length_append, List.length_singleton]
      exact h.taken.give (by simp [hbusy])
    · simp only [setDesc, h.taken.next_eq]
      simp only [List.length_append, List.length_singleton] at hindex
      by_cases hlast : index = waiting.length
      · subst hlast
        simp
      · rw [if_neg (by rw [h.place_eq_iff (by omega) hroom]; exact hlast),
          h.holds index (by omega)]
        simp [List.getElem_append_left (show index < waiting.length by omega)]
  · rw [if_neg (by rw [h.next_busy_iff]; exact hroom), if_neg hroom]
    exact ⟨h.taken, h.holds⟩

theorem rtGd32EthRx_empty (h : eth.Queues []) (allocated : Bool) :
    rtGd32EthRx eth allocated = (none, eth) := by
  have htaken := h.taken.taken_iff _ h.taken.back_lt
  rw [h.distance_start] at htaken
  exact if_pos (by simpa using htaken)

theorem rtGd32EthRx_cons {desc : RxDesc} {later : List RxDesc}
    (h : eth.Queues (desc :: later)) (allocated : Bool) :
    (rtGd32EthRx eth allocated).1 = desc.received allocated ∧
      (rtGd32EthRx eth allocated).2.Queues later := by
  have hback := h.taken.back_lt
  have htaken := h.taken.taken_iff _ hback
  rw [h.distance_start] at htaken
  have hfree : (eth.dmaRxDscrTab eth.dmaCurrentRxDesc).busy = false := by
    simpa using htaken
  have hfirst : eth.dmaRxDscrTab eth.dmaCurrentRxDesc = desc := by
    have hzero := h.holds 0 (by simp)
    rwa [Nat.add_zero, Nat.mod_eq_of_lt hback] at hzero
  have hnext : nextPlace ethRxbufnb eth.dmaCurrentRxDesc =
      (eth.dmaCurrentRxDesc + 1) % ethRxbufnb := by
    have hmod := @nextPlace_mod ethRxbufnb (by decide) eth.dmaCurrentRxDesc
    rwa [Nat.mod_eq_of_lt hback] at hmod
  simp only [rtGd32EthRx, hfree, Bool.false_eq_true, if_false]
  refine ⟨by rw [hfirst], ?_, fun index hindex => ?_⟩
  · have hleft : (fun place => !(eth.setDesc eth.dmaCurrentRxDesc
        (eth.dmaRxDscrTab eth.dmaCurrentRxDesc).givenBack place).busy) =
          fun place => place != eth.dmaCurrentRxDesc &&
            !(eth.dmaRxDscrTab place).busy := by
      funext place
      by_cases hplace : place = eth.dmaCurrentRxDesc <;> simp [setDesc, hplace]
    simp only [hleft]
    exact h.taken.giveBack (by simp [hfree])
  · have hcount := h.taken.count_le
    simp only [List.length_cons] at hcount
    have hplace : (nextPlace ethRxbufnb eth.dmaCurrentRxDesc + index) %
        ethRxbufnb = (eth.dmaCurrentRxDesc + (index + 1)) % ethRxbufnb := by
      rw [hnext, Nat.mod_add_mod, Nat.add_assoc, Nat.add_comm 1]
    have hother : (eth.dmaCurrentRxDesc + (index + 1)) % ethRxbufnb ≠
        eth.dmaCurrentRxDesc :=
      add_mod_ne hback (by omega) (by omega)
    simp only [setDesc, hplace, if_neg hother]
    exact h.holds (index + 1) (by simpa using hindex)

end RxState.Queues

/-! ## The driver and the queue -/

def RxRun.Follows (run : RxRun) (queue : RxQueue) : Prop :=
  run.eth.Queues queue.waiting ∧ run.delivered = queue.delivered

theorem step_follows {run : RxRun} {queue : RxQueue} (h : run.Follows queue)
    (event : RxEvent) : (run.step event).Follows (queue.note event) := by
  obtain ⟨hqueues, hdelivered⟩ := h
  cases event with
  | arrive status buffer =>
      have harrived := hqueues.frameArrives status buffer
      simp only [RxRun.step, RxQueue.note]
      by_cases hroom : queue.waiting.length < ethRxbufnb
      · rw [if_pos hroom] at harrived ⊢
        exact ⟨harrived, hdelivered⟩
      · rw [if_neg hroom] at harrived ⊢
        exact ⟨harrived, hdelivered⟩
  | read allocated =>
      obtain ⟨waiting, delivered⟩ := queue
      cases waiting with
      | nil =>
          simp only [RxRun.step, RxQueue.note,
            hqueues.rtGd32EthRx_empty allocated]
          exact ⟨hqueues, by simpa using hdelivered⟩
      | cons desc later =>
          obtain ⟨hresult, hlater⟩ := hqueues.rtGd32EthRx_cons allocated
          simp only [RxRun.step, RxQueue.note]
          exact ⟨hlater, by rw [hresult, hdelivered, desc.toList_received]⟩
  | restart => exact ⟨chainModeInit_queues _, hdelivered⟩

theorem rxRun_follows (eth : RxState) (events : List RxEvent) :
    (rxRun eth events).Follows (rxQueue events) := by
  induction events using List.reverseRecOn with
  | nil => exact ⟨chainModeInit_queues eth, rfl⟩
  | append_singleton events event ih =>
      simp only [rxRun, rxQueue, List.foldl_append, List.foldl_cons,
        List.foldl_nil]
      exact step_follows ih event

def arrivedFrames (events : List RxEvent) : List Bytes :=
  events.filterMap fun event =>
    match event with
    | .arrive status buffer => some (RxDesc.filled status buffer).frame
    | .read _ | .restart => none

theorem note_sublist (queue : RxQueue) (event : RxEvent)
    (arrived : List Bytes)
    (h : (queue.delivered ++ queue.waiting.map RxDesc.frame).Sublist arrived) :
    ((queue.note event).delivered ++
      (queue.note event).waiting.map RxDesc.frame).Sublist
        (arrived ++ arrivedFrames [event]) := by
  cases event with
  | arrive status buffer =>
      simp only [RxQueue.note]
      split
      · simp only [List.map_append, ← List.append_assoc]
        exact h.append (List.Sublist.refl _)
      · exact h.trans (List.sublist_append_left _ _)
  | read allocated =>
      obtain ⟨waiting, delivered⟩ := queue
      simp only [arrivedFrames, List.filterMap_cons, List.filterMap_nil,
        List.append_nil]
      cases waiting with
      | nil => exact h
      | cons desc later =>
          have hkept : (if desc.deliverable && allocated then [desc.frame]
              else []).Sublist [desc.frame] := by
            split <;> simp
          simp only [RxQueue.note, List.append_assoc]
          exact ((List.Sublist.refl delivered).append
            (hkept.append (List.Sublist.refl _))).trans h
  | restart =>
      simp only [RxQueue.note, arrivedFrames, List.filterMap_cons,
        List.filterMap_nil, List.append_nil, List.map_nil]
      exact (List.sublist_append_left _ _).trans h

theorem rxQueue_sublist (events : List RxEvent) :
    ((rxQueue events).delivered ++
      (rxQueue events).waiting.map RxDesc.frame).Sublist
        (arrivedFrames events) := by
  induction events using List.reverseRecOn with
  | nil => exact List.Sublist.refl _
  | append_singleton events event ih =>
      have hsplit : arrivedFrames (events ++ [event]) =
          arrivedFrames events ++ arrivedFrames [event] :=
        List.filterMap_append
      rw [hsplit]
      simp only [rxQueue, List.foldl_append, List.foldl_cons, List.foldl_nil]
      exact note_sublist _ event _ ih

/--
Driver and DMA share the descriptors as a queue of at most four frames, in every
order of arrivals, reads and restarts: what the stack gets is what the queue
delivers, so no frame is doubled, overtaken or made up.
-/
theorem receive_ring_is_queue (eth : RxState) (events : List RxEvent) :
    (rxRun eth events).delivered = (rxQueue events).delivered ∧
      (rxRun eth events).delivered.Sublist (arrivedFrames events) ∧
      (∀ allocated, (rtGd32EthRx (rxRun eth events).eth allocated).1 =
        (rxQueue events).waiting.head?.bind (RxDesc.received · allocated)) ∧
      ∀ place < ethRxbufnb,
        ((rxRun eth events).eth.dmaRxDscrTab place).busy = false ↔
          distance ethRxbufnb (rxRun eth events).eth.dmaCurrentRxDesc place <
            (rxQueue events).waiting.length := by
  obtain ⟨hqueues, hdelivered⟩ := rxRun_follows eth events
  refine ⟨hdelivered, ?_, fun allocated => ?_, fun place hplace => ?_⟩
  · rw [hdelivered]
    exact (List.sublist_append_left _ _).trans (rxQueue_sublist events)
  · cases hwaiting : (rxQueue events).waiting with
    | nil =>
        rw [hwaiting] at hqueues
        rw [hqueues.rtGd32EthRx_empty allocated]
        rfl
    | cons desc later =>
        rw [hwaiting] at hqueues
        exact (hqueues.rtGd32EthRx_cons allocated).1
  · have htaken := hqueues.taken.taken_iff place hplace
    simpa using htaken

/-! ## A wake-up -/

def RxTurn.arrives (turn : RxTurn) : List RxEvent :=
  turn.arrivals.map fun frame => .arrive frame.1 frame.2

def RxTurn.events (turn : RxTurn) : List RxEvent :=
  turn.arrives ++ [.read turn.allocated]

theorem rxRun_append (eth : RxState) (events later : List RxEvent) :
    rxRun eth (events ++ later) = later.foldl RxRun.step (rxRun eth events) :=
  List.foldl_append

theorem foldl_arrives (run : RxRun) (frames : List (UInt32 × Bytes)) :
    (frames.map fun frame => RxEvent.arrive frame.1 frame.2).foldl RxRun.step
        run =
      { run with
        eth := frames.foldl (fun eth frame =>
          frameArrives eth frame.1 frame.2) run.eth } := by
  induction frames generalizing run with
  | nil => rfl
  | cons frame frames ih => exact ih _

theorem rxRun_arrives (eth : RxState) (events : List RxEvent) (turn : RxTurn) :
    rxRun eth (events ++ turn.arrives) =
      { rxRun eth events with
        eth := turn.arrivals.foldl (fun eth frame =>
          frameArrives eth frame.1 frame.2) (rxRun eth events).eth } := by
  rw [rxRun_append, RxTurn.arrives, foldl_arrives]

def NothingToDeliver (waiting : List RxDesc) (allocated : Bool) : Prop :=
  ∀ desc ∈ waiting.head?, desc.deliverable = false ∨ allocated = false

structure StopsAt (eth : RxState) (events : List RxEvent) (made : List RxTurn)
    (turn : RxTurn) (result : Wakeup) : Prop where
  delivered : (rxRun eth (events ++ made.flatMap RxTurn.events)).delivered =
    (rxRun eth events).delivered ++ result.frames
  length_eq : result.frames.length = made.length
  nothing : NothingToDeliver
    (rxQueue (events ++ made.flatMap RxTurn.events ++ turn.arrives)).waiting
    turn.allocated
  eth_eq : result.eth =
    (rxRun eth (events ++ made.flatMap RxTurn.events ++ turn.events)).eth
  left : result.eth.Queues
    (rxQueue (events ++ made.flatMap RxTurn.events ++ turn.arrives)).waiting.tail

theorem rxRun_events (eth : RxState) (events : List RxEvent) (turn : RxTurn) :
    rxRun eth (events ++ turn.events) =
      (rxRun eth (events ++ turn.arrives)).step (.read turn.allocated) := by
  rw [RxTurn.events, ← List.append_assoc, rxRun_append]
  rfl

theorem rxQueue_events (events : List RxEvent) (turn : RxTurn) :
    rxQueue (events ++ turn.events) =
      (rxQueue (events ++ turn.arrives)).note (.read turn.allocated) := by
  simp [rxQueue, RxTurn.events]

theorem receiveAll_none {events : List RxEvent} {turn : RxTurn}
    (turns : List RxTurn)
    (h : (rtGd32EthRx (rxRun eth (events ++ turn.arrives)).eth
      turn.allocated).1 = none) :
    receiveAll (turn :: turns) (rxRun eth events).eth =
      ⟨[], (rxRun eth (events ++ turn.events)).eth, true⟩ := by
  rw [rxRun_events, RxRun.step]
  rw [rxRun_arrives] at h ⊢
  simp only [receiveAll]
  rcases hread : rtGd32EthRx _ turn.allocated with ⟨_ | frame, after⟩
  · rfl
  · rw [hread] at h
    cases h

theorem receiveAll_some {events : List RxEvent} {turn : RxTurn}
    (turns : List RxTurn) {frame : Bytes}
    (h : (rtGd32EthRx (rxRun eth (events ++ turn.arrives)).eth
      turn.allocated).1 = some frame) :
    receiveAll (turn :: turns) (rxRun eth events).eth =
        { receiveAll turns (rxRun eth (events ++ turn.events)).eth with
          frames := frame ::
            (receiveAll turns (rxRun eth (events ++ turn.events)).eth).frames } ∧
      (rxRun eth (events ++ turn.events)).delivered =
        (rxRun eth events).delivered ++ [frame] := by
  rw [rxRun_events, RxRun.step]
  rw [rxRun_arrives] at h ⊢
  simp only [receiveAll]
  rcases hread : rtGd32EthRx _ turn.allocated with ⟨_ | first, after⟩
  · rw [hread] at h
    cases h
  · rw [hread] at h
    cases h
    exact ⟨rfl, rfl⟩

/-- A read that gives nothing: the queue has nothing to deliver, and loses its head. -/
theorem read_none {run : RxRun} {queue : RxQueue} (h : run.Follows queue)
    {allocated : Bool} (hnone : (rtGd32EthRx run.eth allocated).1 = none) :
    NothingToDeliver queue.waiting allocated ∧
      (rtGd32EthRx run.eth allocated).2.Queues queue.waiting.tail := by
  obtain ⟨waiting, delivered⟩ := queue
  cases waiting with
  | nil =>
      have hqueues : run.eth.Queues [] := h.1
      rw [hqueues.rtGd32EthRx_empty allocated]
      exact ⟨by simp [NothingToDeliver], hqueues⟩
  | cons desc later =>
      obtain ⟨hresult, hlater⟩ := RxState.Queues.rtGd32EthRx_cons h.1 allocated
      rw [hnone, RxDesc.received, RxDesc.whole_eq_deliverable] at hresult
      refine ⟨?_, hlater⟩
      simp only [NothingToDeliver, List.head?_cons, Option.mem_some_iff,
        forall_eq']
      by_contra hgood
      rw [not_or, Bool.not_eq_false, Bool.not_eq_false] at hgood
      simp [hgood.1, hgood.2] at hresult

theorem read_some {run : RxRun} {queue : RxQueue} (h : run.Follows queue)
    {allocated : Bool} {frame : Bytes}
    (hsome : (rtGd32EthRx run.eth allocated).1 = some frame) :
    queue.waiting.length = (queue.note (.read allocated)).waiting.length + 1 := by
  obtain ⟨waiting, delivered⟩ := queue
  cases waiting with
  | nil =>
      have hqueues : run.eth.Queues [] := h.1
      rw [hqueues.rtGd32EthRx_empty allocated] at hsome
      cases hsome
  | cons desc later => rfl

theorem length_note_arrives (queue : RxQueue) (turn : RxTurn) :
    (turn.arrives.foldl RxQueue.note queue).waiting.length ≤
      queue.waiting.length + turn.arrivals.length := by
  rw [RxTurn.arrives]
  induction turn.arrivals generalizing queue with
  | nil => exact Nat.le_refl _
  | cons frame frames ih =>
      refine (ih _).trans ?_
      rw [List.length_cons, RxQueue.note]
      split
      · simp only [List.length_append, List.length_singleton]
        omega
      · omega

theorem receiveAll_stops (eth : RxState) (events : List RxEvent)
    (turns : List RxTurn)
    (hended : (receiveAll turns (rxRun eth events).eth).ended = true) :
    ∃ made turn rest, turns = made ++ turn :: rest ∧
      StopsAt eth events made turn (receiveAll turns (rxRun eth events).eth) := by
  induction turns generalizing events with
  | nil => cases hended
  | cons turn turns ih =>
      have hfollows := rxRun_follows eth (events ++ turn.arrives)
      cases hread : (rtGd32EthRx (rxRun eth (events ++ turn.arrives)).eth
          turn.allocated).1 with
      | none =>
          obtain ⟨hnothing, hleft⟩ := read_none hfollows hread
          refine ⟨[], turn, turns, rfl, ?_⟩
          rw [receiveAll_none turns hread]
          refine ⟨by simp, rfl, by simpa using hnothing, by simp, ?_⟩
          rw [rxRun_events, RxRun.step]
          simpa using hleft
      | some frame =>
          obtain ⟨hresult, hdelivered⟩ := receiveAll_some turns hread
          rw [hresult] at hended ⊢
          obtain ⟨made, last, rest, hturns, hstops⟩ :=
            ih (events ++ turn.events) hended
          refine ⟨turn :: made, last, rest, by rw [hturns]; rfl, ?_, ?_, ?_, ?_, ?_⟩
          · simpa [hdelivered] using hstops.delivered
          · simpa using hstops.length_eq
          · simpa using hstops.nothing
          · simpa using hstops.eth_eq
          · simpa using hstops.left

theorem receiveAll_ends (eth : RxState) (events : List RxEvent)
    (turns : List RxTurn)
    (hturns : (rxQueue events).waiting.length +
      (turns.flatMap (·.arrivals)).length < turns.length) :
    (receiveAll turns (rxRun eth events).eth).ended = true := by
  induction turns generalizing events with
  | nil => exact absurd hturns (Nat.not_lt_zero _)
  | cons turn turns ih =>
      have hfollows := rxRun_follows eth (events ++ turn.arrives)
      cases hread : (rtGd32EthRx (rxRun eth (events ++ turn.arrives)).eth
          turn.allocated).1 with
      | none => rw [receiveAll_none turns hread]
      | some frame =>
          rw [(receiveAll_some turns hread).1]
          apply ih
          have hone := read_some hfollows hread
          have harrived := length_note_arrives (rxQueue events) turn
          have hsplit : rxQueue (events ++ turn.arrives) =
              turn.arrives.foldl RxQueue.note (rxQueue events) :=
            List.foldl_append
          rw [hsplit] at hone
          rw [rxQueue_events, hsplit]
          simp only [List.flatMap_cons, List.length_append, List.length_cons] at hturns
          omega

/--
The loop that is to receive all frames ends at the first turn that finds no
frame, or one that is not whole, or gets no `pbuf` for it: the frames in front
of it go to the stack, that one is lost, and those behind it stay in the
descriptors until the next interrupt.
-/
theorem wakeup_stops_at_bad_frame (eth : RxState) (events : List RxEvent)
    (turns : List RxTurn) :
    ((receiveAll turns (rxRun eth events).eth).ended = true →
      ∃ made turn rest, turns = made ++ turn :: rest ∧
        StopsAt eth events made turn
          (receiveAll turns (rxRun eth events).eth)) ∧
      ((rxQueue events).waiting.length +
          (turns.flatMap (·.arrivals)).length < turns.length →
        (receiveAll turns (rxRun eth events).eth).ended = true) :=
  ⟨receiveAll_stops eth events turns, receiveAll_ends eth events turns⟩

/-- Three frames wait, the second of them with the error bit. -/
def threeFrames : List RxEvent :=
  [.arrive 0x00060300 [1, 2, 0, 0], .arrive 0x00068300 [3, 4, 0, 0],
    .arrive 0x00060300 [5, 6, 0, 0]]

def quietTurns : List RxTurn := List.replicate 4 ⟨[], true⟩

def stoppedEth : RxState := ⟨fun _ => ⟨0, []⟩, 0, 0, false⟩

theorem wakeup_stops_at_second_frame :
    (receiveAll quietTurns (rxRun stoppedEth threeFrames).eth).frames =
        [[1, 2]] ∧
      ∃ made turn rest, quietTurns = made ++ turn :: rest ∧
        StopsAt stoppedEth threeFrames made turn
          (receiveAll quietTurns (rxRun stoppedEth threeFrames).eth) :=
  ⟨by decide, (wakeup_stops_at_bad_frame stoppedEth threeFrames quietTurns).1
    ((wakeup_stops_at_bad_frame stoppedEth threeFrames quietTurns).2
      (by decide))⟩

end WncFirmware.Eth
