import WncFirmware.Foundation.MemoryWords
import WncFirmware.Kernel.MessageQueue

/-!
# The system heap

`kernel/mem.c` keeps its bookkeeping in the memory it gives out: every block
starts with a `struct heap_mem` that holds the offsets of its neighbours.
Addresses are offsets from `heap_ptr`.  A call that stops at an assertion or
in an endless loop has no result.  The functions run under `heap_sem`.
-/

namespace WncFirmware.Kernel

open Foundation

/-- The fields of `struct heap_mem`. -/
inductive HeapMem
  | magic | used | next | prev
deriving Repr, DecidableEq

namespace HeapMem

def offset : HeapMem → Nat
  | magic => 0
  | used => 2
  | next => 4
  | prev => 8

def width : HeapMem → Nat
  | magic | used => 2
  | next | prev => 4

end HeapMem

def heapMagic : Nat := 0x1ea0

def minSize : Nat := 12

/-- `alignSize` is `RT_ALIGN_SIZE`, which the configuration sets. -/
structure Heap where
  alignSize : UInt32
  memSizeAligned : Nat
  memory : Memory
  lfree : Nat
  usedMem : Nat
  maxMem : Nat

def subSize (first second : Nat) : Nat := (first + 2 ^ 32 - second) % 2 ^ 32

def rtAlignDown (size align : UInt32) : UInt32 := size &&& ~~~(align - 1)

namespace Heap

def minSizeAligned (heap : Heap) : Nat := (rtAlign 12 heap.alignSize).toNat

def sizeofStructMem (heap : Heap) : Nat := (rtAlign 12 heap.alignSize).toNat

def heapEnd (heap : Heap) : Nat := heap.memSizeAligned + heap.sizeofStructMem

def get (heap : Heap) (mem : Nat) (field : HeapMem) : Nat :=
  loadWord heap.memory (mem + field.offset) field.width

def set (heap : Heap) (mem : Nat) (field : HeapMem) (number : Nat) : Heap :=
  { heap with
    memory := storeWord heap.memory (mem + field.offset) field.width number }

def create (heap : Heap) (mem used next prev : Nat) : Heap :=
  (((heap.set mem .magic heapMagic).set mem .used used).set
    mem .next next).set mem .prev prev

/-- More turns than there are offsets: a loop that needs more never ends. -/
def turns (heap : Heap) : Nat := heap.heapEnd + 1

/-! ## Joining free neighbours -/

def plugForward (heap : Heap) (mem : Nat) : Heap :=
  let nmem := heap.get mem .next
  if mem ≠ nmem ∧ heap.get nmem .used = 0 ∧ nmem ≠ heap.heapEnd then
    let lowered :=
      if heap.lfree = nmem then { heap with lfree := mem } else heap
    let joined := lowered.set mem .next (lowered.get nmem .next)
    joined.set (joined.get nmem .next) .prev mem
  else heap

def plugBackward (heap : Heap) (mem : Nat) : Heap :=
  let pmem := heap.get mem .prev
  if pmem ≠ mem ∧ heap.get pmem .used = 0 then
    let lowered :=
      if heap.lfree = mem then { heap with lfree := pmem } else heap
    let joined := lowered.set pmem .next (lowered.get mem .next)
    joined.set (joined.get mem .next) .prev pmem
  else heap

def plugHoles (heap : Heap) (mem : Nat) : Option Heap :=
  if mem < heap.heapEnd ∧ heap.get mem .used = 0 then
    some ((heap.plugForward mem).plugBackward mem)
  else none

/-! ## Allocation -/

/-- The loop of `rt_malloc`: the first block from `ptr` on that is large
enough, if there is one. -/
def firstFit (heap : Heap) (size : Nat) : Nat → Nat → Option (Option Nat)
  | 0, _ => none
  | turns + 1, ptr =>
      if ptr < subSize heap.memSizeAligned size then
        if heap.get ptr .used = 0 ∧
            size ≤ subSize (heap.get ptr .next) (ptr + heap.sizeofStructMem)
        then some (some ptr)
        else firstFit heap size turns (heap.get ptr .next)
      else some none

def split (heap : Heap) (ptr size : Nat) : Heap :=
  let ptr2 := ptr + heap.sizeofStructMem + size
  let next := heap.get ptr .next
  let cut := (heap.create ptr2 0 next ptr).set ptr .next ptr2
  if next ≠ heap.memSizeAligned + heap.sizeofStructMem then
    cut.set next .prev ptr2
  else cut

def addUsed (heap : Heap) (size : Nat) : Heap :=
  let usedMem := (heap.usedMem + size) % 2 ^ 32
  { heap with
    usedMem := usedMem
    maxMem := if heap.maxMem < usedMem then usedMem else heap.maxMem }

/-- Takes the block at `ptr`, as a whole when no block would fit behind. -/
def occupy (heap : Heap) (ptr size : Nat) : Heap :=
  let room := subSize (heap.get ptr .next) (ptr + heap.sizeofStructMem)
  if size + heap.sizeofStructMem + heap.minSizeAligned ≤ room then
    ((heap.split ptr size).set ptr .used 1).addUsed
      (size + heap.sizeofStructMem)
  else
    (heap.set ptr .used 1).addUsed (subSize (heap.get ptr .next) ptr)

/-- The loop that moves `lfree` on. -/
def nextFree (heap : Heap) : Nat → Nat → Option Nat
  | 0, _ => none
  | turns + 1, ptr =>
      if heap.get ptr .used ≠ 0 ∧ ptr ≠ heap.heapEnd then
        nextFree heap turns (heap.get ptr .next)
      else some ptr

def raiseLfree (heap : Heap) (mem : Nat) : Option Heap :=
  if mem = heap.lfree then
    (heap.nextFree heap.turns heap.lfree).bind fun lfree =>
      if lfree = heap.heapEnd ∨ heap.get lfree .used = 0 then
        some { heap with lfree := lfree }
      else none
  else some heap

/-- Every data block is at least `MIN_SIZE_ALIGNED` long. -/
def blockSize (heap : Heap) (aligned : Nat) : Nat :=
  if aligned < heap.minSizeAligned then heap.minSizeAligned else aligned

def Granted (heap : Heap) (mem size : Nat) : Prop :=
  mem + heap.sizeofStructMem + size ≤ heap.heapEnd ∧
    (mem + heap.sizeofStructMem) % heap.alignSize.toNat = 0 ∧
    mem % heap.alignSize.toNat = 0

instance (heap : Heap) (mem size : Nat) : Decidable (heap.Granted mem size) :=
  inferInstanceAs (Decidable (_ ∧ _ ∧ _))

def memset (heap : Heap) (dst : Nat) (byte : UInt8) (count : Nat) : Heap :=
  { heap with
    memory := fun place =>
      if dst ≤ place ∧ place < dst + count then byte else heap.memory place }

def rtMalloc (heap : Heap) (request : UInt32) : Option (Heap × Option Nat) :=
  let aligned := (rtAlign request heap.alignSize).toNat
  if request = 0 then some (heap, none)
  else if heap.memSizeAligned < aligned then some (heap, none)
  else
    let size := heap.blockSize aligned
    (heap.firstFit size heap.turns heap.lfree).bind fun
      | none => some (heap, none)
      | some mem =>
          (((heap.occupy mem size).set mem .magic heapMagic).raiseLfree
            mem).bind fun taken =>
              if taken.Granted mem size then
                some (taken, some (mem + heap.sizeofStructMem))
              else none

def rtCalloc (heap : Heap) (count size : UInt32) : Option (Heap × Option Nat) :=
  (heap.rtMalloc (count * size)).map fun
    | (heap, none) => (heap, none)
    | (heap, some p) => (heap.memset p 0 (count * size).toNat, some p)

/-! ## Release -/

def rtFree (heap : Heap) (rmem : Nat) : Option Heap :=
  let mem := rmem - heap.sizeofStructMem
  if heap.sizeofStructMem ≤ rmem ∧ rmem % heap.alignSize.toNat = 0 ∧
      rmem < heap.heapEnd ∧ heap.get mem .used ≠ 0 ∧
      heap.get mem .magic = heapMagic then
    let freed := (heap.set mem .used 0).set mem .magic heapMagic
    let lowered :=
      if mem < freed.lfree then { freed with lfree := mem } else freed
    ({ lowered with
      usedMem := subSize lowered.usedMem
        (subSize (lowered.get mem .next) mem) }).plugHoles mem
  else none

/-! ## Change of size -/

/-- The part of `rt_realloc` under the semaphore, for a pointer into the heap:
the heap after it, and whether the block can stay where it is. -/
def resize (heap : Heap) (rmem : Nat) (newsize : Nat) : Option (Heap × Bool) :=
  let ptr := rmem - heap.sizeofStructMem
  let size := subSize (subSize (heap.get ptr .next) ptr) heap.sizeofStructMem
  if rmem < heap.sizeofStructMem then none
  else if size = newsize then some (heap, true)
  else if newsize + heap.sizeofStructMem + minSize < size then
    (({ heap with usedMem := subSize heap.usedMem (size - newsize) }.split
      ptr newsize).plugHoles (ptr + heap.sizeofStructMem + newsize)).map
        (·, true)
  else some (heap, false)

/-- `memory` is what the RAM holds at power on, counted from the aligned begin
address. -/
def rtSystemHeapInit (alignSize : UInt32) (memory : Memory)
    (beginAddr endAddr : UInt32) : Option Heap :=
  let beginAlign := (rtAlign beginAddr alignSize).toNat
  let endAlign := (rtAlignDown endAddr alignSize).toNat
  let sizeofStructMem := (rtAlign 12 alignSize).toNat
  if 2 * sizeofStructMem < endAlign ∧
      beginAlign ≤ endAlign - 2 * sizeofStructMem then
    let memSizeAligned := endAlign - beginAlign - 2 * sizeofStructMem
    let last := memSizeAligned + sizeofStructMem
    let raw : Heap := ⟨alignSize, memSizeAligned, memory, 0, 0, 0⟩
    some ((raw.create 0 0 last 0).create last 1 last last)
  else none

end Heap

end WncFirmware.Kernel
