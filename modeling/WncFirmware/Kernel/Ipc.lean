import Mathlib.Data.List.Basic

/-!
# Waiting lists of the kernel

What `ipc.c` does with the threads that wait for an object.  The pointers of
`rt_list_t` are not modelled: a waiting list is the list of its threads.
-/

namespace WncFirmware.Kernel

/-- The results of the calls, with the sign that they are returned with. -/
inductive RtErr where
  | eok
  | error
  | etimeout
  | efull
  deriving DecidableEq, Repr

inductive RtIpcFlag where
  | fifo
  | prio
  deriving DecidableEq, Repr

variable {Thread : Type}

def insertByPriority (currentPriority : Thread → UInt8) (thread : Thread) :
    List Thread → List Thread
  | [] => [thread]
  | sthread :: list =>
      if currentPriority thread < currentPriority sthread then
        thread :: sthread :: list
      else
        sthread :: insertByPriority currentPriority thread list

def rtIpcListSuspend (currentPriority : Thread → UInt8) (list : List Thread)
    (thread : Thread) : RtIpcFlag → List Thread
  | .fifo => list ++ [thread]
  | .prio => insertByPriority currentPriority thread list

theorem insertByPriority_perm (currentPriority : Thread → UInt8)
    (thread : Thread) (list : List Thread) :
    (insertByPriority currentPriority thread list).Perm (thread :: list) := by
  induction list with
  | nil => exact List.Perm.refl _
  | cons sthread list ih =>
      rw [insertByPriority]
      split
      · exact List.Perm.refl _
      · exact (ih.cons sthread).trans (List.Perm.swap thread sthread list)

theorem rtIpcListSuspend_perm (currentPriority : Thread → UInt8)
    (list : List Thread) (thread : Thread) (flag : RtIpcFlag) :
    (rtIpcListSuspend currentPriority list thread flag).Perm
      (thread :: list) := by
  cases flag with
  | fifo => exact List.perm_append_singleton thread list
  | prio => exact insertByPriority_perm currentPriority thread list

theorem insertByPriority_pairwise {currentPriority : Thread → UInt8}
    {thread : Thread} {list : List Thread}
    (h : list.Pairwise fun first second =>
      currentPriority first ≤ currentPriority second) :
    (insertByPriority currentPriority thread list).Pairwise fun first second =>
      currentPriority first ≤ currentPriority second := by
  induction list with
  | nil => exact List.pairwise_singleton _ thread
  | cons sthread list ih =>
      obtain ⟨hfirst, hlist⟩ := List.pairwise_cons.mp h
      rw [insertByPriority]
      split
      · next hlt =>
        refine List.pairwise_cons.mpr ⟨fun other hother => ?_, h⟩
        rcases List.mem_cons.mp hother with rfl | hother
        · exact UInt8.le_of_lt hlt
        · exact UInt8.le_trans (UInt8.le_of_lt hlt) (hfirst other hother)
      · next hle =>
        refine List.pairwise_cons.mpr ⟨fun other hother => ?_, ih hlist⟩
        rw [(insertByPriority_perm ..).mem_iff] at hother
        rcases List.mem_cons.mp hother with rfl | hother
        · exact UInt8.not_lt.mp hle
        · exact hfirst other hother

end WncFirmware.Kernel
