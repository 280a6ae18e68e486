import WncFirmware.Foundation.NorFlash

/-!
# Programming byte by byte

A program command of a NOR flash takes its bytes one after the other and ANDs
each of them into the next address.  Which address comes next is up to the
command: a page program returns to the start of the page behind its end.
-/

namespace WncFirmware.Foundation

def programByte (memory : Memory) (address : Nat) (byte : UInt8) : Memory :=
  Function.update memory address (memory address &&& byte)

def programAt (memory : Memory) (place : Nat → Nat) : Bytes → Memory
  | [] => memory
  | byte :: bytes =>
      programAt (programByte memory (place 0) byte)
        (fun index => place (index + 1)) bytes

def pageProgram (size : Nat) (memory : Memory) (start : Nat) (bytes : Bytes) :
    Memory :=
  programAt memory
    (fun index => start / size * size + (start % size + index) % size) bytes

variable {memory : Memory} {place : Nat → Nat} {bytes : Bytes}

theorem programAt_append (memory : Memory) (place : Nat → Nat)
    (first second : Bytes) :
    programAt memory place (first ++ second) =
      programAt (programAt memory place first)
        (fun index => place (first.length + index)) second := by
  induction first generalizing memory place with
  | nil => simp [programAt]
  | cons byte first ih =>
      rw [List.cons_append, programAt, ih, programAt, List.length_cons]
      congr 1
      funext index
      congr 1
      omega

theorem programAt_congr {other : Nat → Nat} (memory : Memory)
    (h : ∀ index < bytes.length, place index = other index) :
    programAt memory place bytes = programAt memory other bytes := by
  induction bytes generalizing memory place other with
  | nil => rfl
  | cons byte bytes ih =>
      rw [programAt, programAt, h 0 (Nat.succ_pos _)]
      apply ih
      intro index hindex
      exact h (index + 1) (Nat.succ_lt_succ hindex)

theorem programAt_of_ne {address : Nat} (memory : Memory)
    (h : ∀ index < bytes.length, address ≠ place index) :
    programAt memory place bytes address = memory address := by
  induction bytes generalizing memory place with
  | nil => rfl
  | cons byte bytes ih =>
      rw [programAt, ih _ fun index hindex =>
        h (index + 1) (Nat.succ_lt_succ hindex)]
      exact Function.update_of_ne (h 0 (Nat.succ_pos _)) _ _

theorem programAt_place {index : Nat} (memory : Memory)
    (hindex : index < bytes.length)
    (h : ∀ other < bytes.length, other ≠ index → place index ≠ place other) :
    programAt memory place bytes (place index) =
      memory (place index) &&& byteAt bytes index := by
  induction bytes generalizing memory place index with
  | nil => exact absurd hindex (Nat.not_lt_zero _)
  | cons byte bytes ih =>
      cases index with
      | zero =>
          rw [programAt, programAt_of_ne, programByte, Function.update_self,
            byteAt_cons_zero]
          intro other hother
          exact h (other + 1) (Nat.succ_lt_succ hother) (Nat.succ_ne_zero _)
      | succ index =>
          have hrest := @ih (fun index => place (index + 1)) index
            (programByte memory (place 0) byte) (Nat.lt_of_succ_lt_succ hindex)
            (fun other hother hne => h (other + 1) (Nat.succ_lt_succ hother)
              (fun heq => hne (Nat.succ.inj heq)))
          have hfirst := h 0 (Nat.succ_pos _) (Nat.succ_ne_zero index).symm
          rw [programAt, hrest, programByte, Function.update_of_ne hfirst,
            byteAt_cons_succ]

theorem apply_program (memory : Memory) (start : Nat) (bytes : Bytes) :
    (FlashOp.program start bytes).apply memory =
      programAt memory (fun index => start + index) bytes := by
  funext address
  rw [FlashOp.apply]
  dsimp only
  split
  case isTrue hinside =>
    obtain ⟨index, rfl⟩ := Nat.exists_eq_add_of_le hinside.1
    have hplace := @programAt_place (fun index => start + index) bytes index
      memory (by omega) (fun other _ hne => by omega)
    rw [hplace, Nat.add_sub_cancel_left]
  case isFalse houtside =>
    rw [programAt_of_ne]
    intro index hindex
    omega

/-- A page program that ends inside its page takes consecutive addresses. -/
theorem pageProgram_inside {size start : Nat} (memory : Memory)
    (h : start % size + bytes.length ≤ size) :
    pageProgram size memory start bytes =
      programAt memory (fun index => start + index) bytes := by
  apply programAt_congr
  intro index hindex
  rw [Nat.mod_eq_of_lt (by omega), ← Nat.add_assoc, Nat.div_add_mod']

end WncFirmware.Foundation
