import Mathlib.Data.List.Basic
import Mathlib.Logic.Function.Basic

/-!
# The dot display

The thread of `thread_led.c`: the buffer of dots, the refresh of one row after
the other over the pins, and the pattern of the display test.  A pin at the low
level is on.
-/

namespace WncFirmware.Led

inductive GpioPort where
  | gpioc
  | gpioe
  deriving DecidableEq, Repr

structure Pin where
  port : GpioPort
  number : Nat
  deriving DecidableEq, Repr

def columnPin (i : Nat) : Pin :=
  [⟨.gpioe, 0⟩, ⟨.gpioe, 1⟩, ⟨.gpioe, 2⟩, ⟨.gpioe, 3⟩, ⟨.gpioe, 10⟩,
    ⟨.gpioe, 9⟩, ⟨.gpioe, 8⟩, ⟨.gpioe, 7⟩].getD i ⟨.gpioe, 7⟩

def rowPin (i : Nat) : Pin :=
  [⟨.gpioe, 6⟩, ⟨.gpioc, 13⟩, ⟨.gpioc, 14⟩, ⟨.gpioc, 15⟩, ⟨.gpioe, 14⟩,
    ⟨.gpioe, 13⟩, ⟨.gpioe, 12⟩, ⟨.gpioe, 11⟩].getD i ⟨.gpioe, 11⟩

abbrev Pins := Pin → Bool

structure LedThread where
  dotBuf : Nat → BitVec 8
  row : Nat
  direction : Bool
  lineNum : Nat
  value : BitVec 8
  testMode : Bool
  pins : Pins

inductive LedEvent where
  | refresh
  | setLed (on : Bool) (row column : Nat)
  | ledTest
  | testTimer
  deriving DecidableEq, Repr

namespace LedThread

def initialBuf : Nat → BitVec 8 := Function.update (fun _ => 0) 7 0x05

def start (pins : Pins) : LedThread where
  dotBuf := initialBuf
  row := 0
  direction := false
  lineNum := 0
  value := 0x80
  testMode := false
  pins := pins

def ledInit (s : LedThread) : LedThread := { s with dotBuf := initialBuf }

def dot (line : BitVec 8) (i : Nat) : Bool :=
  decide (line &&& (0x80#8 >>> i) ≠ 0)

def drive (pin : Nat → Pin) (on : Nat → Bool) (pins : Pins) : Pins :=
  (List.range 8).foldl (fun pins i => Function.update pins (pin i) (!on i)) pins

def refreshLed (s : LedThread) : LedThread :=
  let rows := drive rowPin (fun i => decide (s.row = i)) s.pins
  { s with
    pins := drive columnPin (dot (s.dotBuf s.row)) rows
    row := if 7 < s.row + 1 then 0 else s.row + 1 }

def ledTestFreshBuf (s : LedThread) : LedThread :=
  if s.direction then
    let lineNum := s.lineNum + 1
    { s with
      dotBuf := Function.update (fun _ => 0) s.lineNum 0xff
      lineNum := if 7 < lineNum then 0 else lineNum
      direction := if 7 < lineNum then false else true }
  else
    let value := s.value >>> 1
    { s with
      dotBuf := fun _ => s.value
      value := if value = 0 then 0x80 else value
      direction := if value = 0 then true else false }

def setLed (s : LedThread) (on : Bool) (row column : Nat) : LedThread :=
  if 7 < row ∨ 7 < column then s
  else
    { s with
      dotBuf := Function.update s.dotBuf row
        (if on then s.dotBuf row ||| (0x80#8 >>> column)
        else s.dotBuf row &&& ~~~(0x80#8 >>> column)) }

def step (s : LedThread) : LedEvent → LedThread
  | .refresh => s.refreshLed
  | .setLed on row column => s.setLed on row column
  | .ledTest =>
      if s.testMode then { s.ledInit with testMode := false }
      else { s with testMode := true }
  | .testTimer => s.ledTestFreshBuf

end LedThread

def ledThread (pins : Pins) (events : List LedEvent) : LedThread :=
  events.foldl LedThread.step (.start pins)

/-! ## The picture -/

/--
What the display is to show: the dots as they were set last, the number of
refreshes, and the number of patterns the test has drawn since power on.
-/
structure Picture where
  dots : Nat → Nat → Bool
  refreshes : Nat
  patterns : Nat
  testing : Bool

namespace Picture

def initialDots (row column : Nat) : Bool :=
  decide (row = 7 ∧ (column = 5 ∨ column = 7))

/-- Eight columns from the left, then eight rows from the top. -/
def patternDots (number row column : Nat) : Bool :=
  if number % 16 < 8 then decide (column = number % 16)
  else decide (row = number % 16 - 8)

def start : Picture := ⟨initialDots, 0, 0, false⟩

def note (picture : Picture) : LedEvent → Picture
  | .refresh => { picture with refreshes := picture.refreshes + 1 }
  | .setLed on row column =>
      if row ≤ 7 ∧ column ≤ 7 then
        { picture with dots := fun r c =>
            if r = row ∧ c = column then on else picture.dots r c }
      else picture
  | .ledTest =>
      if picture.testing then
        { picture with
          dots := initialDots
          testing := false }
      else { picture with testing := true }
  | .testTimer =>
      { picture with
        dots := patternDots picture.patterns
        patterns := picture.patterns + 1 }

end Picture

def picture (events : List LedEvent) : Picture :=
  events.foldl Picture.note .start

/-! ## Bits and pins -/

namespace LedThread

variable {s : LedThread} {p : Picture}

theorem dot_eq_getMsbD (line : BitVec 8) {i : Nat} (h : i < 8) :
    dot line i = line.getMsbD i := by
  have hall : ∀ i : Fin 8, ∀ line : BitVec 8, dot line i = line.getMsbD i := by
    decide +kernel
  exact hall ⟨i, h⟩ line

theorem getMsbD_mask {column i : Nat} (hcolumn : column < 8) (h : i < 8) :
    (0x80#8 >>> column).getMsbD i = decide (i = column) := by
  have hall : ∀ column i : Fin 8,
      (0x80#8 >>> column.val).getMsbD i = decide (i.val = column.val) := by
    decide
  exact hall ⟨column, hcolumn⟩ ⟨i, h⟩

theorem dot_lit (line : BitVec 8) {column i : Nat} (hcolumn : column < 8)
    (h : i < 8) :
    dot (line ||| (0x80#8 >>> column)) i = (dot line i || decide (i = column)) := by
  rw [dot_eq_getMsbD _ h, dot_eq_getMsbD _ h, BitVec.getMsbD_or,
    getMsbD_mask hcolumn h]

theorem dot_dark (line : BitVec 8) {column i : Nat} (hcolumn : column < 8)
    (h : i < 8) :
    dot (line &&& ~~~(0x80#8 >>> column)) i =
      (dot line i && !decide (i = column)) := by
  rw [dot_eq_getMsbD _ h, dot_eq_getMsbD _ h, BitVec.getMsbD_and,
    BitVec.getMsbD_not, getMsbD_mask hcolumn h]
  simp [h]

theorem foldl_update_of_ne {pin : Nat → Pin} {level : Nat → Bool} (count : Nat)
    (pins : Pins) {other : Pin} (h : ∀ i < count, pin i ≠ other) :
    (List.range count).foldl
      (fun pins i => Function.update pins (pin i) (level i)) pins other =
        pins other := by
  induction count with
  | zero => rfl
  | succ count ih =>
      rw [List.range_succ, List.foldl_append]
      simp only [List.foldl_cons, List.foldl_nil]
      rw [Function.update_of_ne (h count (Nat.lt_succ_self _)).symm]
      exact ih fun i hi => h i (Nat.lt_succ_of_lt hi)

theorem foldl_update_at {pin : Nat → Pin} {level : Nat → Bool} {count : Nat}
    (pins : Pins)
    (hapart : ∀ i < count, ∀ j < count, pin i = pin j → i = j) {i : Nat}
    (h : i < count) :
    (List.range count).foldl
      (fun pins i => Function.update pins (pin i) (level i)) pins (pin i) =
        level i := by
  induction count with
  | zero => exact absurd h (Nat.not_lt_zero i)
  | succ count ih =>
      rw [List.range_succ, List.foldl_append]
      simp only [List.foldl_cons, List.foldl_nil]
      by_cases hlast : i = count
      · subst hlast
        exact Function.update_self ..
      · have hi : i < count := by omega
        rw [Function.update_of_ne]
        · exact ih (fun i hi j hj => hapart i (by omega) j (by omega)) hi
        · exact fun hsame => hlast (hapart i h count (by omega) hsame)

theorem columnPins_apart :
    ∀ i < 8, ∀ j < 8, columnPin i = columnPin j → i = j := by
  decide

theorem rowPins_apart : ∀ i < 8, ∀ j < 8, rowPin i = rowPin j → i = j := by
  decide

theorem columnPin_ne_rowPin : ∀ j < 8, ∀ i < 8, columnPin i ≠ rowPin j := by
  decide

theorem refreshLed_row (s : LedThread) {i : Nat} (h : i < 8) :
    s.refreshLed.pins (rowPin i) = !decide (s.row = i) := by
  simp only [refreshLed, drive]
  rw [foldl_update_of_ne 8 _ (columnPin_ne_rowPin i h)]
  exact foldl_update_at _ rowPins_apart h

theorem refreshLed_column (s : LedThread) {i : Nat} (h : i < 8) :
    s.refreshLed.pins (columnPin i) = !dot (s.dotBuf s.row) i := by
  simp only [refreshLed, drive]
  exact foldl_update_at _ columnPins_apart h

/-! ## The thread draws the picture -/

/-- The buffer holds the dots, and the static variables count the events. -/
structure Draws (s : LedThread) (p : Picture) : Prop where
  dots : ∀ row < 8, ∀ column < 8,
    dot (s.dotBuf row) column = p.dots row column
  row : s.row = p.refreshes % 8
  testMode : s.testMode = p.testing
  direction : s.direction = decide (8 ≤ p.patterns % 16)
  lineNum : s.lineNum = p.patterns % 16 - 8
  value : s.value = 0x80#8 >>> (if p.patterns % 16 < 8 then p.patterns % 16 else 0)

theorem dot_initialBuf : ∀ row < 8, ∀ column < 8,
    dot (initialBuf row) column = Picture.initialDots row column := by
  decide

theorem start_draws (pins : Pins) : (start pins).Draws .start :=
  ⟨dot_initialBuf, rfl, rfl, rfl, rfl, rfl⟩

theorem refreshLed_draws (h : s.Draws p) :
    s.refreshLed.Draws (p.note .refresh) := by
  refine ⟨h.dots, ?_, h.testMode, h.direction, h.lineNum, h.value⟩
  have hrow := h.row
  simp only [refreshLed, Picture.note]
  split <;> omega

theorem setLed_draws (h : s.Draws p) (on : Bool) (row column : Nat) :
    (s.setLed on row column).Draws (p.note (.setLed on row column)) := by
  simp only [setLed, Picture.note]
  by_cases hinside : row ≤ 7 ∧ column ≤ 7
  · rw [if_neg (by omega), if_pos hinside]
    refine ⟨fun r hr c hc => ?_, h.row, h.testMode, h.direction, h.lineNum,
      h.value⟩
    have hcolumn : column < 8 := by omega
    by_cases hsame : r = row
    · subst hsame
      have hdot := h.dots r hr c hc
      simp only [Function.update_self, true_and]
      cases on with
      | true =>
          rw [if_pos rfl, dot_lit _ hcolumn hc, hdot]
          by_cases hc : c = column <;> simp [hc]
      | false =>
          rw [if_neg Bool.false_ne_true, dot_dark _ hcolumn hc, hdot]
          by_cases hc : c = column <;> simp [hc]
    · simp only [Function.update_of_ne hsame, hsame, false_and, if_false]
      exact h.dots r hr c hc
  · rw [if_pos (by omega), if_neg hinside]
    exact h

theorem ledTest_draws (h : s.Draws p) :
    (s.step .ledTest).Draws (p.note .ledTest) := by
  simp only [step, Picture.note, h.testMode]
  cases p.testing with
  | true => exact ⟨dot_initialBuf, h.row, rfl, h.direction, h.lineNum, h.value⟩
  | false => exact ⟨h.dots, h.row, rfl, h.direction, h.lineNum, h.value⟩

theorem dot_column {number column : Nat} (hnumber : number < 8)
    (h : column < 8) :
    dot (0x80#8 >>> number) column = decide (column = number) := by
  rw [dot_eq_getMsbD _ h, getMsbD_mask hnumber h]

theorem shift_eq_zero_iff : ∀ number < 8,
    ((0x80#8 >>> number : BitVec 8) >>> 1 : BitVec 8) = 0 ↔ number = 7 := by
  decide

theorem ledTestFreshBuf_draws (h : s.Draws p) :
    s.ledTestFreshBuf.Draws (p.note .testTimer) := by
  have hvalue := h.value
  have hline := h.lineNum
  simp only [ledTestFreshBuf, h.direction, Picture.note, decide_eq_true_eq]
  by_cases hlines : 8 ≤ p.patterns % 16
  · rw [if_pos hlines]
    refine ⟨fun r hr c hc => ?_, h.row, h.testMode, ?_, ?_, ?_⟩
    · have hfew : ¬p.patterns % 16 < 8 := by omega
      simp only [Picture.patternDots, if_neg hfew, hline, Function.update_apply]
      by_cases hsame : r = p.patterns % 16 - 8
      · have hfull : ∀ c < 8, dot 0xff#8 c = true := by decide
        simp [hsame, hfull c hc]
      · have hempty : ∀ c < 8, dot 0#8 c = false := by decide
        simp [hsame, hempty c hc]
    · simp only [hline]
      split <;> simp <;> omega
    · simp only [hline]
      split <;> omega
    · dsimp only
      rw [hvalue, if_neg (by omega)]
      split
      · have hlast : (p.patterns + 1) % 16 = 0 := by omega
        rw [hlast]
      · rfl
  · rw [if_neg hlines]
    have hfew : p.patterns % 16 < 8 := by omega
    rw [if_pos hfew] at hvalue
    have hzero := shift_eq_zero_iff (p.patterns % 16) hfew
    refine ⟨fun r hr c hc => ?_, h.row, h.testMode, ?_, ?_, ?_⟩
    · simp only [Picture.patternDots, if_pos hfew, hvalue, dot_column hfew hc]
    · simp only [hvalue, hzero]
      split <;> simp <;> omega
    · simp only [hline]
      omega
    · dsimp only
      rw [hvalue]
      by_cases hlast : p.patterns % 16 = 7
      · rw [if_pos (hzero.mpr hlast), if_neg (by omega)]
        rfl
      · have hnext : (p.patterns + 1) % 16 = p.patterns % 16 + 1 := by omega
        rw [if_neg (mt hzero.mp hlast), if_pos (by omega), hnext,
          BitVec.shiftRight_add]

theorem step_draws (h : s.Draws p) (event : LedEvent) :
    (s.step event).Draws (p.note event) := by
  cases event with
  | refresh => exact refreshLed_draws h
  | setLed on row column => exact setLed_draws h on row column
  | ledTest => exact ledTest_draws h
  | testTimer => exact ledTestFreshBuf_draws h

theorem run_draws (pins : Pins) (events : List LedEvent) :
    (ledThread pins events).Draws (picture events) := by
  have hrun : ∀ (events : List LedEvent) (s : LedThread) (p : Picture),
      s.Draws p → (events.foldl step s).Draws (events.foldl Picture.note p) := by
    intro events
    induction events with
    | nil => exact fun s p h => h
    | cons event events ih => exact fun s p h => ih _ _ (step_draws h event)
  exact hrun events _ _ (start_draws pins)

end LedThread

/--
After each refresh one row is on, the one whose turn it is, and of the columns
those whose dots in this row were set last, whatever the pins were at first and
whatever dots, tests and refreshes there were.
-/
theorem refresh_shows_picture (pins : Pins) (events : List LedEvent) :
    let turn := (picture events).refreshes % 8
    let shown := (ledThread pins (events ++ [.refresh])).pins
    ∀ i < 8, (shown (rowPin i) = false ↔ i = turn) ∧
      (shown (columnPin i) = false ↔ (picture events).dots turn i = true) := by
  intro turn shown i hi
  have hdraws := LedThread.run_draws pins events
  have hshown : shown = (ledThread pins events).refreshLed.pins := by
    simp only [shown, ledThread, List.foldl_append, List.foldl_cons,
      List.foldl_nil]
    rfl
  have hturn : turn < 8 := Nat.mod_lt _ (by decide)
  rw [hshown, LedThread.refreshLed_row _ hi, LedThread.refreshLed_column _ hi,
    hdraws.row, hdraws.dots _ hturn i hi]
  simp only [Bool.not_eq_false', decide_eq_true_eq, and_true]
  exact eq_comm

theorem refresh_shows_picture_of_one_dot :
    let shown := (ledThread (fun _ => true) [.setLed true 0 3, .refresh]).pins
    shown (rowPin 0) = false ∧ shown (columnPin 3) = false := by
  have hshows := refresh_shows_picture (fun _ => true) [.setLed true 0 3]
  exact ⟨(hshows 0 (by decide)).1.mpr (by decide),
    (hshows 3 (by decide)).2.mpr (by decide)⟩

end WncFirmware.Led
