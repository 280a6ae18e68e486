import WncFirmware.Foundation.Bytes

/-!
# NOR flash memory

Erasing sets every byte of a range to `0xff`; programming ANDs bytes in.  A
writer is described by the list of its operations, so that an interruption
leaves the effect of a front part of the list.
-/

namespace WncFirmware.Foundation

abbrev Memory := Nat → UInt8

inductive FlashOp where
  | erase (start size : Nat)
  | program (start : Nat) (bytes : Bytes)
  deriving DecidableEq, Repr

namespace FlashOp

def start : FlashOp → Nat
  | .erase start _ | .program start _ => start

def size : FlashOp → Nat
  | .erase _ size => size
  | .program _ bytes => bytes.length

def Avoids (low high : Nat) (op : FlashOp) : Prop :=
  op.start + op.size ≤ low ∨ high ≤ op.start

instance (low high : Nat) (op : FlashOp) : Decidable (op.Avoids low high) :=
  inferInstanceAs (Decidable (_ ∨ _))

def apply (memory : Memory) : FlashOp → Memory
  | .erase start size => fun address =>
      if start ≤ address ∧ address < start + size then 0xff else memory address
  | .program start bytes => fun address =>
      if start ≤ address ∧ address < start + bytes.length then
        memory address &&& byteAt bytes (address - start)
      else memory address

theorem apply_of_outside (memory : Memory) (op : FlashOp) {address : Nat}
    (h : address < op.start ∨ op.start + op.size ≤ address) :
    op.apply memory address = memory address := by
  cases op with
  | erase start size =>
      simp only [FlashOp.start, FlashOp.size] at h
      simp only [apply]
      rw [if_neg (by omega)]
  | program start bytes =>
      simp only [FlashOp.start, FlashOp.size] at h
      simp only [apply]
      rw [if_neg (by omega)]

end FlashOp

def applyOps (memory : Memory) (ops : List FlashOp) : Memory :=
  ops.foldl FlashOp.apply memory

@[simp] theorem applyOps_nil (memory : Memory) : applyOps memory [] = memory :=
  rfl

@[simp] theorem applyOps_cons (memory : Memory) (op : FlashOp)
    (ops : List FlashOp) :
    applyOps memory (op :: ops) = applyOps (op.apply memory) ops := rfl

theorem applyOps_append (memory : Memory) (first second : List FlashOp) :
    applyOps memory (first ++ second) =
      applyOps (applyOps memory first) second :=
  List.foldl_append

def readBytes (memory : Memory) (start size : Nat) : Bytes :=
  (List.range size).map fun index => memory (start + index)

@[simp] theorem length_readBytes (memory : Memory) (start size : Nat) :
    (readBytes memory start size).length = size := by
  simp [readBytes]

/-! ## Ranges -/

def AgreeOn (low high : Nat) (first second : Memory) : Prop :=
  ∀ address, low ≤ address → address < high → first address = second address

theorem AgreeOn.refl (low high : Nat) (memory : Memory) :
    AgreeOn low high memory memory := fun _ _ _ => rfl

theorem AgreeOn.trans {low high : Nat} {first second third : Memory}
    (h : AgreeOn low high first second) (h' : AgreeOn low high second third) :
    AgreeOn low high first third := fun address hlow hhigh =>
  (h address hlow hhigh).trans (h' address hlow hhigh)

theorem AgreeOn.mono {low high low' high' : Nat} {first second : Memory}
    (h : AgreeOn low high first second) (hlow : low ≤ low')
    (hhigh : high' ≤ high) : AgreeOn low' high' first second :=
  fun address hlow' hhigh' => h address (by omega) (by omega)

theorem AgreeOn.readBytes_eq {low high start size : Nat}
    {first second : Memory} (h : AgreeOn low high first second)
    (hlow : low ≤ start) (hhigh : start + size ≤ high) :
    readBytes first start size = readBytes second start size := by
  apply List.map_congr_left
  intro index hindex
  have := List.mem_range.mp hindex
  exact h _ (by omega) (by omega)

theorem agreeOn_apply {low high : Nat} {op : FlashOp} (memory : Memory)
    (h : op.Avoids low high) : AgreeOn low high (op.apply memory) memory := by
  intro address hlow hhigh
  apply op.apply_of_outside
  simp only [FlashOp.Avoids] at h
  omega

theorem agreeOn_applyOps {low high : Nat} {ops : List FlashOp}
    (memory : Memory) (h : ∀ op ∈ ops, op.Avoids low high) :
    AgreeOn low high (applyOps memory ops) memory := by
  induction ops generalizing memory with
  | nil => exact AgreeOn.refl low high memory
  | cons op ops ih =>
      rw [applyOps_cons]
      exact (ih _ fun op hop => h op (List.mem_cons_of_mem _ hop)).trans
        (agreeOn_apply memory (h op List.mem_cons_self))

/-! ## Erased ranges -/

def Erased (low high : Nat) (memory : Memory) : Prop :=
  ∀ address, low ≤ address → address < high → memory address = 0xff

theorem Erased.mono {low high low' high' : Nat} {memory : Memory}
    (h : Erased low high memory) (hlow : low ≤ low') (hhigh : high' ≤ high) :
    Erased low' high' memory :=
  fun address hlow' hhigh' => h address (by omega) (by omega)

theorem Erased.congr {low high : Nat} {first second : Memory}
    (h : Erased low high second) (hagree : AgreeOn low high first second) :
    Erased low high first := fun address hlow hhigh =>
  (hagree address hlow hhigh).trans (h address hlow hhigh)

theorem erased_erase (memory : Memory) (start size : Nat) :
    Erased start (start + size) ((FlashOp.erase start size).apply memory) := by
  intro address hlow hhigh
  simp [FlashOp.apply, hlow, hhigh]

theorem readBytes_erased {memory : Memory} {start size : Nat}
    (h : Erased start (start + size) memory) :
    readBytes memory start size = List.replicate size 0xff := by
  apply List.ext_getElem (by simp)
  intro index hindex _
  rw [length_readBytes] at hindex
  simp only [readBytes, List.getElem_map, List.getElem_range,
    List.getElem_replicate]
  exact h _ (by omega) (by omega)

@[simp] theorem erased_and (byte : UInt8) : 255 &&& byte = byte :=
  UInt8.neg_one_and

theorem readBytes_program {memory : Memory} {start : Nat} {bytes : Bytes}
    (h : Erased start (start + bytes.length) memory) :
    readBytes ((FlashOp.program start bytes).apply memory) start bytes.length =
      bytes := by
  apply List.ext_getElem (by simp)
  intro index hindex hindex'
  have herased := h (start + index) (by omega) (by omega)
  simp [readBytes, FlashOp.apply, hindex', herased, byteAt]

theorem readBytes_add (memory : Memory) (start first second : Nat) :
    readBytes memory start (first + second) =
      readBytes memory start first ++
        readBytes memory (start + first) second := by
  simp [readBytes, List.range_add, Nat.add_assoc, Function.comp_def]

theorem readBytes_inside {memory : Memory} {start size skip count : Nat}
    (h : skip + count ≤ size) :
    readBytes memory (start + skip) count =
      ((readBytes memory start size).drop skip).take count := by
  have hsplit : size = skip + (count + (size - skip - count)) := by omega
  rw [hsplit, readBytes_add, readBytes_add,
    List.drop_left' (length_readBytes _ _ _),
    List.take_left' (length_readBytes _ _ _)]

theorem readBytes_append {memory : Memory} {start size : Nat} {bytes : Bytes}
    (h : Erased (start + size) (start + size + bytes.length) memory) :
    readBytes ((FlashOp.program (start + size) bytes).apply memory) start
      (size + bytes.length) = readBytes memory start size ++ bytes := by
  have hfront : AgreeOn start (start + size)
      ((FlashOp.program (start + size) bytes).apply memory) memory :=
    agreeOn_apply memory (.inr le_rfl)
  rw [readBytes_add, readBytes_program h, hfront.readBytes_eq le_rfl le_rfl]

theorem readBytes_rewrite (memory : Memory) (start : Nat) {size : Nat}
    (bytes : Bytes) (h : bytes.length ≤ size) :
    readBytes (applyOps memory [.erase start size, .program start bytes]) start
      bytes.length = bytes := by
  apply readBytes_program
  exact (erased_erase memory start size).mono le_rfl (by omega)

/-! ## Ranges that are filled from the start -/

structure Holds (low high : Nat) (bytes : Bytes) (memory : Memory) : Prop where
  stored : readBytes memory low bytes.length = bytes
  behind : Erased (low + bytes.length) high memory

theorem Erased.holds {low high : Nat} {memory : Memory}
    (h : Erased low high memory) : Holds low high [] memory :=
  ⟨rfl, h⟩

theorem Holds.congr {low high : Nat} {bytes : Bytes} {first second : Memory}
    (h : Holds low high bytes second) (hroom : low + bytes.length ≤ high)
    (hagree : AgreeOn low high first second) : Holds low high bytes first := by
  constructor
  · exact (hagree.readBytes_eq le_rfl hroom).trans h.stored
  · exact h.behind.congr (hagree.mono (by omega) le_rfl)

theorem Holds.program {low high : Nat} {bytes more : Bytes} {memory : Memory}
    (h : Holds low high bytes memory)
    (hroom : low + bytes.length + more.length ≤ high) :
    Holds low high (bytes ++ more)
      ((FlashOp.program (low + bytes.length) more).apply memory) := by
  have hlength : (bytes ++ more).length = bytes.length + more.length :=
    List.length_append
  constructor
  · rw [hlength, readBytes_append (h.behind.mono le_rfl hroom), h.stored]
  · have hagree : AgreeOn (low + (bytes ++ more).length) high
        ((FlashOp.program (low + bytes.length) more).apply memory) memory := by
      apply agreeOn_apply
      left
      simp only [FlashOp.start, FlashOp.size]
      omega
    exact (h.behind.mono (by omega) le_rfl).congr hagree

theorem Holds.readBytes_all {low size : Nat} {bytes : Bytes} {memory : Memory}
    (h : Holds low (low + size) bytes memory) (hroom : bytes.length ≤ size) :
    readBytes memory low size =
      bytes ++ List.replicate (size - bytes.length) 0xff := by
  have hbehind : Erased (low + bytes.length)
      (low + bytes.length + (size - bytes.length)) memory :=
    h.behind.mono le_rfl (by omega)
  calc readBytes memory low size
      = readBytes memory low (bytes.length + (size - bytes.length)) := by
        rw [Nat.add_sub_cancel' hroom]
    _ = bytes ++ List.replicate (size - bytes.length) 0xff := by
        rw [readBytes_add, h.stored, readBytes_erased hbehind]

end WncFirmware.Foundation
