import WncFirmware.Foundation.Custody
import WncFirmware.Kernel.MessageQueue

/-!
# Where the messages of a queue are

Each message of the pool is in the queue, in the empty list or in the hands of
one caller, whatever the callers have done.
-/

namespace WncFirmware.Kernel

open WncFirmware.Foundation

variable {Thread : Type} {mq : MessageQueue Thread}
  {held : Thread → Option Nat} {queued free : List Nat} {msg : Nat}

namespace MessageQueue

def IsPlace (mq : MessageQueue Thread) (msg : Nat) : Prop :=
  ∃ temp < mq.maxMsgs.toNat, msg = mq.place temp

theorem mem_places (mq : MessageQueue Thread) (msg : Nat)
    (h : mq.IsPlace msg) :
    msg ∈ (List.range mq.maxMsgs.toNat).map mq.place := by
  obtain ⟨temp, htemp, rfl⟩ := h
  exact List.mem_map_of_mem (List.mem_range.mpr htemp)

theorem IsPlace.apart {first second : Nat} (hfirst : mq.IsPlace first)
    (hsecond : mq.IsPlace second) (hne : first ≠ second) :
    first + mq.msgSize.toNat + sizeofMqMessage ≤ second ∨
      second + mq.msgSize.toNat + sizeofMqMessage ≤ first := by
  obtain ⟨front, -, rfl⟩ := hfirst
  obtain ⟨back, -, rfl⟩ := hsecond
  have hstep (low high : Nat) (h : low < high) :
      mq.place low + mq.msgSize.toNat + sizeofMqMessage ≤ mq.place high := by
    have hle := Nat.mul_le_mul_right
      (mq.msgSize.toNat + sizeofMqMessage) (Nat.succ_le_of_lt h)
    rw [Nat.succ_mul] at hle
    simpa [place, Nat.add_assoc] using hle
  rcases Nat.lt_trichotomy front back with h | h | h
  · exact .inl (hstep front back h)
  · exact absurd (congrArg mq.place h) hne
  · exact .inr (hstep back front h)

end MessageQueue

/-- The lists of the queue; `held` are the messages in the callers' hands. -/
structure Links (mq : MessageQueue Thread) (held : Thread → Option Nat)
    (queued free : List Nat) : Prop where
  queue_linked : Linked mq.next mq.msgQueueHead queued
  free_linked : Linked mq.next mq.msgQueueFree free
  tail_eq : mq.msgQueueTail = queued.getLast?
  custody : Custody mq.IsPlace held (queued ++ free)

structure Pool (mq : MessageQueue Thread) (held : Thread → Option Nat)
    (queued free : List Nat) : Prop extends Links mq held queued free where
  entry_eq : mq.entry.toNat = queued.length

theorem Links.notMem_queued (h : Links mq held queued free) {thread : Thread}
    (hheld : held thread = some msg) : msg ∉ queued := by
  intro hmsg
  exact h.custody.apart hheld (List.mem_append_left free hmsg)

theorem Links.notMem_free (h : Links mq held queued free) {thread : Thread}
    (hheld : held thread = some msg) : msg ∉ free := by
  intro hmsg
  exact h.custody.apart hheld (List.mem_append_right queued hmsg)

theorem Links.queued_nodup (h : Links mq held queued free) : queued.Nodup :=
  (List.nodup_append.mp h.custody.nodup).1

theorem Links.tail_of_cons {rest : List Nat}
    (h : Links mq held (msg :: rest) free) :
    (if mq.msgQueueTail = some msg then none else mq.msgQueueTail) =
      rest.getLast? := by
  rw [h.tail_eq]
  cases rest with
  | nil => simp
  | cons second later =>
      have hnotMem := (List.nodup_cons.mp h.queued_nodup).1
      rw [List.getLast?_cons_cons, if_neg]
      intro hlast
      exact hnotMem (List.mem_of_getLast? hlast)

namespace Pool

theorem length_queued_le (h : Pool mq held queued free) :
    queued.length ≤ mq.maxMsgs.toNat := by
  simpa using h.custody.length_le
    (List.sublist_append_left queued free) mq.mem_places

/-- Room for one more: a message in a caller's hands is not in the queue. -/
theorem length_queued_lt (h : Pool mq held queued free) {thread : Thread}
    (hheld : held thread = some msg) :
    queued.length < mq.maxMsgs.toNat := by
  simpa using h.custody.length_lt_of_held
    (List.sublist_append_left queued free) mq.mem_places hheld

theorem entry_add_one (h : Pool mq held queued free) {thread : Thread}
    (hheld : held thread = some msg) :
    (mq.entry + 1).toNat = queued.length + 1 := by
  have hlt := h.length_queued_lt hheld
  have hmax := mq.maxMsgs.toNat_lt
  rw [UInt16.toNat_add, h.entry_eq]
  exact Nat.mod_eq_of_lt (Nat.lt_of_le_of_lt hlt hmax)

theorem entry_eq_zero_iff (h : Pool mq held queued free) :
    mq.entry = 0 ↔ queued = [] := by
  rw [← List.length_eq_zero_iff, ← h.entry_eq, ← UInt16.toNat_inj]
  exact Iff.rfl

end Pool

/-! ## Setting up -/

theorem place_inj (mq : MessageQueue Thread) {first second : Nat}
    (h : mq.place first = mq.place second) : first = second :=
  Nat.eq_of_mul_eq_mul_right (by simp [sizeofMqMessage]) h

theorem fillFree_frame (mq : MessageQueue Thread) (count : Nat) :
    (mq.fillFree count).msgSize = mq.msgSize ∧
      (mq.fillFree count).maxMsgs = mq.maxMsgs ∧
      (mq.fillFree count).entry = mq.entry ∧
      (mq.fillFree count).msgQueueHead = mq.msgQueueHead ∧
      (mq.fillFree count).msgQueueTail = mq.msgQueueTail ∧
      (mq.fillFree count).suspendThread = mq.suspendThread := by
  induction count with
  | zero => exact ⟨rfl, rfl, rfl, rfl, rfl, rfl⟩
  | succ temp ih => exact ih

theorem fillFree_linked (mq : MessageQueue Thread) (count : Nat) :
    Linked (mq.fillFree count).next (mq.fillFree count).msgQueueFree
      ((List.range count).map mq.place).reverse := by
  induction count with
  | zero => rfl
  | succ temp ih =>
      have hplace : (mq.fillFree temp).place temp = mq.place temp := by
        simp only [MessageQueue.place, (fillFree_frame mq temp).1]
      rw [List.range_succ, List.map_append, List.reverse_append]
      simp only [MessageQueue.fillFree, hplace]
      apply ih.push
      intro hmem
      rw [List.mem_reverse, List.mem_map] at hmem
      obtain ⟨earlier, hearlier, hsame⟩ := hmem
      have hlt := List.mem_range.mp hearlier
      exact absurd (place_inj mq hsame) (Nat.ne_of_lt hlt)

theorem setUp_pool (next : Nat → Option Nat) (pool : Nat → UInt8)
    (msgSize maxMsgs : UInt16) (flag : RtIpcFlag) :
    ∃ free, Pool (MessageQueue.setUp next pool msgSize maxMsgs flag)
      (fun _ : Thread => none) [] free := by
  let mq : MessageQueue Thread := .cleared next pool msgSize maxMsgs flag
  obtain ⟨hsize, hmax, hentry, hhead, htail, -⟩ :=
    fillFree_frame mq maxMsgs.toNat
  refine ⟨_, ⟨⟨hhead, fillFree_linked mq maxMsgs.toNat, htail, ?_⟩, ?_⟩⟩
  · apply Custody.of_store
    · rw [List.nil_append, List.nodup_reverse]
      exact List.nodup_range.map fun _ _ => place_inj mq
    · intro msg
      simp only [MessageQueue.IsPlace, MessageQueue.setUp]
      rw [hmax]
      simp only [MessageQueue.place]
      rw [hsize]
      simp [mq, MessageQueue.cleared, MessageQueue.place, eq_comm]
  · exact congrArg UInt16.toNat hentry

theorem rtMqInit_place_le {rtAlignSize msgSize poolSize : UInt32}
    {next : Nat → Option Nat} {pool : Nat → UInt8} {flag : RtIpcFlag}
    (hmq : mq = rtMqInit rtAlignSize next pool msgSize poolSize flag)
    (hmsg : mq.IsPlace msg) :
    msg + mq.msgSize.toNat + sizeofMqMessage ≤ poolSize.toNat := by
  obtain ⟨temp, htemp, rfl⟩ := hmsg
  obtain ⟨hsize, hmax, -⟩ := fillFree_frame
    (.cleared next pool (rtAlign msgSize rtAlignSize).toUInt16
      (poolSize.toNat / ((rtAlign msgSize rtAlignSize).toUInt16.toNat +
        sizeofMqMessage)).toUInt16 flag : MessageQueue Thread)
    (poolSize.toNat / ((rtAlign msgSize rtAlignSize).toUInt16.toNat +
      sizeofMqMessage)).toUInt16.toNat
  have hcount : mq.maxMsgs.toNat ≤
      poolSize.toNat / (mq.msgSize.toNat + sizeofMqMessage) := by
    subst hmq
    simp only [rtMqInit, MessageQueue.setUp]
    rw [hsize, hmax]
    simp only [MessageQueue.cleared, UInt16.toNat_ofNat']
    exact Nat.mod_le _ _
  have hle := Nat.mul_le_mul_right (mq.msgSize.toNat + sizeofMqMessage)
    (Nat.le_trans (Nat.succ_le_of_lt htemp) hcount)
  rw [Nat.succ_mul] at hle
  rw [MessageQueue.place, Nat.add_assoc]
  exact Nat.le_trans hle (Nat.div_mul_le_self _ _)

/-! ## The sections of the calls -/

theorem Pool.getHead_eq_none_iff (h : Pool mq held queued free) :
    mq.getHead = none ↔ queued = [] := by
  rw [← h.queue_linked.start_eq_none_iff, MessageQueue.getHead]
  cases mq.msgQueueHead <;> simp

theorem Pool.update_held (h : Pool mq held queued free) {thread : Thread}
    (hheld : held thread = some msg) (link : Option Nat) :
    Pool { mq with next := Function.update mq.next msg link }
      held queued free where
  queue_linked := h.queue_linked.update (h.notMem_queued hheld) link
  free_linked := h.free_linked.update (h.notMem_free hheld) link
  tail_eq := h.tail_eq
  custody := h.custody
  entry_eq := h.entry_eq

/-- One turn of the loop of `rt_mq_control`. -/
theorem Links.release {rest : List Nat}
    (h : Links mq held (msg :: rest) free) :
    Links (MessageQueue.putFree { mq with
      msgQueueHead := mq.next msg
      msgQueueTail :=
        if mq.msgQueueTail = some msg then none else mq.msgQueueTail } msg)
      held rest (msg :: free) := by
  have hnodup : (msg :: (rest ++ free)).Nodup := h.custody.nodup
  have hnotMem := (List.nodup_cons.mp hnodup).1
  rw [List.mem_append, not_or] at hnotMem
  exact {
    queue_linked := h.queue_linked.2.update hnotMem.1 mq.msgQueueFree
    free_linked := h.free_linked.push hnotMem.2
    tail_eq := h.tail_of_cons
    custody := h.custody.perm List.perm_middle }

theorem Links.releaseAll (h : Links mq held queued free) {fuel : Nat}
    (hfuel : queued.length ≤ fuel) :
    Links (MessageQueue.releaseAll fuel mq) held []
      (queued.reverse ++ free) := by
  induction fuel generalizing mq queued free with
  | zero =>
      obtain rfl := List.length_eq_zero_iff.mp (Nat.le_zero.mp hfuel)
      exact h
  | succ fuel ih =>
      cases queued with
      | nil =>
          have hhead : mq.msgQueueHead = none := h.queue_linked
          rw [MessageQueue.releaseAll, hhead]
          exact h
      | cons msg rest =>
          have hhead : mq.msgQueueHead = some msg := h.queue_linked.1
          rw [MessageQueue.releaseAll, hhead, List.reverse_cons,
            List.append_assoc]
          exact ih h.release (Nat.le_of_succ_le_succ hfuel)

theorem MessageQueue.releaseAll_waiting (fuel : Nat)
    (mq : MessageQueue Thread) :
    (releaseAll fuel mq).suspendThread = mq.suspendThread := by
  induction fuel generalizing mq with
  | zero => rfl
  | succ fuel ih =>
      rw [releaseAll]
      split
      · rfl
      · rw [ih]
        rfl

theorem Links.releaseAll_frame (h : Links mq held queued free) (fuel : Nat) :
    (MessageQueue.releaseAll fuel mq).msgSize = mq.msgSize ∧
      (MessageQueue.releaseAll fuel mq).pool = mq.pool ∧
      ∀ other, other ∉ queued →
        (MessageQueue.releaseAll fuel mq).next other = mq.next other := by
  induction fuel generalizing mq queued free with
  | zero => exact ⟨rfl, rfl, fun _ _ => rfl⟩
  | succ fuel ih =>
      cases queued with
      | nil =>
          have hhead : mq.msgQueueHead = none := h.queue_linked
          rw [MessageQueue.releaseAll, hhead]
          exact ⟨rfl, rfl, fun _ _ => rfl⟩
      | cons msg rest =>
          have hhead : mq.msgQueueHead = some msg := h.queue_linked.1
          rw [MessageQueue.releaseAll, hhead]
          obtain ⟨hsize, hbytes, hnext⟩ := ih h.release
          refine ⟨hsize, hbytes, fun other hother => ?_⟩
          obtain ⟨hne, hother⟩ := not_or.mp (mt List.mem_cons.mpr hother)
          exact (hnext other hother).trans (Function.update_of_ne hne ..)

variable {thread : Thread} {after : MessageQueue Thread}

theorem MessageQueue.getFree_eq_some_iff : mq.getFree = some (msg, after) ↔
    mq.msgQueueFree = some msg ∧
      { mq with msgQueueFree := mq.next msg } = after := by
  rw [getFree]
  cases mq.msgQueueFree with
  | none => simp
  | some first =>
      simp only [Option.some.injEq, Prod.mk.injEq]
      constructor <;> rintro ⟨rfl, rfl⟩ <;> exact ⟨rfl, rfl⟩

theorem MessageQueue.getHead_eq_some_iff : mq.getHead = some (msg, after) ↔
    mq.msgQueueHead = some msg ∧
      { mq with
        msgQueueHead := mq.next msg
        msgQueueTail :=
          if mq.msgQueueTail = some msg then none else mq.msgQueueTail
        entry := mq.entry - 1 } = after := by
  rw [getHead]
  cases mq.msgQueueHead with
  | none => simp
  | some first =>
      simp only [Option.some.injEq, Prod.mk.injEq]
      constructor <;> rintro ⟨rfl, rfl⟩ <;> exact ⟨rfl, rfl⟩

theorem MessageQueue.linkTail_waiting (mq : MessageQueue Thread) (msg : Nat) :
    (mq.linkTail msg).suspendThread = mq.suspendThread ∧
      (mq.linkTail msg).entry = mq.entry + 1 := by
  rw [linkTail]
  cases mq.msgQueueTail <;> exact ⟨rfl, rfl⟩

/-- What `linkTail` leaves as it is: the bytes, and the links outside. -/
theorem Pool.linkTail_frame (h : Pool mq held queued free) (msg : Nat) :
    (mq.linkTail msg).msgSize = mq.msgSize ∧
      (mq.linkTail msg).pool = mq.pool ∧
      ∀ other, other ∉ queued →
        (mq.linkTail msg).next other = mq.next other := by
  have htail := h.tail_eq
  rw [MessageQueue.linkTail]
  cases hlast : mq.msgQueueTail with
  | none => exact ⟨rfl, rfl, fun _ _ => rfl⟩
  | some last =>
      refine ⟨rfl, rfl, fun other hother => Function.update_of_ne ?_ ..⟩
      rintro rfl
      rw [hlast] at htail
      exact hother (List.mem_of_getLast? htail.symm)

variable [DecidableEq Thread]

theorem Pool.getFree (h : Pool mq held queued free) (hempty : held thread = none)
    (hget : mq.getFree = some (msg, after)) :
    ∃ rest, free = msg :: rest ∧
      Pool after (Function.update held thread (some msg)) queued rest := by
  obtain ⟨hfirst, rfl⟩ := MessageQueue.getFree_eq_some_iff.mp hget
  have hfree := h.free_linked
  rw [hfirst] at hfree
  obtain ⟨rest, rfl, hrest⟩ := hfree.of_start
  exact ⟨rest, rfl, {
    queue_linked := h.queue_linked
    free_linked := hrest
    tail_eq := h.tail_eq
    custody := (h.custody.perm List.perm_middle.symm).take hempty
    entry_eq := h.entry_eq }⟩

theorem Pool.linkTail (h : Pool mq held queued free)
    (hheld : held thread = some msg) (hnull : mq.next msg = none) :
    Pool (mq.linkTail msg) (Function.update held thread none)
      (queued ++ [msg]) free := by
  have hcustody : Custody mq.IsPlace (Function.update held thread none)
      (queued ++ [msg] ++ free) := by
    refine (h.custody.put hheld).perm ?_
    rw [List.append_assoc]
    exact List.perm_middle
  have hentry := h.entry_add_one hheld
  cases htail : mq.msgQueueTail with
  | none =>
      have hnil : queued = [] := by
        rw [← List.getLast?_eq_none_iff, ← h.tail_eq, htail]
      subst hnil
      have hhead : mq.msgQueueHead = none := h.queue_linked
      refine ⟨⟨?_, ?_, ?_, ?_⟩, ?_⟩ <;>
        simp only [MessageQueue.linkTail, htail, hhead]
      · exact ⟨rfl, hnull⟩
      · exact h.free_linked
      · rfl
      · exact hcustody
      · simpa using hentry
  | some last =>
      have hlast : queued.getLast? = some last := by rw [← h.tail_eq, htail]
      have hmem : last ∈ queued := List.mem_of_getLast? hlast
      have hhead : mq.msgQueueHead ≠ none := by
        rw [Ne, h.queue_linked.start_eq_none_iff]
        exact List.ne_nil_of_mem hmem
      obtain ⟨head, hhead⟩ := Option.ne_none_iff_exists'.mp hhead
      have hapart : last ∉ free := by
        intro hfree
        exact (List.nodup_append.mp h.custody.nodup).2.2 last hmem last hfree rfl
      refine ⟨⟨?_, ?_, ?_, ?_⟩, ?_⟩ <;>
        simp only [MessageQueue.linkTail, htail, hhead]
      · rw [← hhead]
        exact h.queue_linked.append h.queued_nodup (h.notMem_queued hheld)
          hnull hlast
      · exact h.free_linked.update hapart (some msg)
      · exact List.getLast?_concat.symm
      · exact hcustody
      · simpa using hentry

theorem Pool.linkHead (h : Pool mq held queued free)
    (hheld : held thread = some msg) :
    Pool (mq.linkHead msg) (Function.update held thread none)
      (msg :: queued) free where
  queue_linked := h.queue_linked.push (h.notMem_queued hheld)
  free_linked := h.free_linked.update (h.notMem_free hheld) mq.msgQueueHead
  tail_eq := by
    simp only [MessageQueue.linkHead, h.tail_eq]
    cases queued with
    | nil => rfl
    | cons first rest =>
        rw [List.getLast?_cons_cons]
        cases hlast : (first :: rest).getLast? with
        | none => exact absurd (List.getLast?_eq_none_iff.mp hlast) (by simp)
        | some last => rfl
  custody := h.custody.put hheld
  entry_eq := h.entry_add_one hheld

theorem Pool.getHead (h : Pool mq held queued free) (hempty : held thread = none)
    (hget : mq.getHead = some (msg, after)) :
    ∃ rest, queued = msg :: rest ∧
      Pool after (Function.update held thread (some msg)) rest free := by
  obtain ⟨hfirst, rfl⟩ := MessageQueue.getHead_eq_some_iff.mp hget
  have hqueue := h.queue_linked
  rw [hfirst] at hqueue
  obtain ⟨rest, rfl, hrest⟩ := hqueue.of_start
  have hentry := h.entry_eq
  rw [List.length_cons] at hentry
  exact ⟨rest, rfl, {
    queue_linked := hrest
    free_linked := h.free_linked
    tail_eq := h.tail_of_cons
    custody := h.custody.take hempty
    entry_eq := by
      have hpos : (1 : UInt16) ≤ mq.entry := by
        rw [UInt16.le_iff_toNat_le, hentry]
        exact Nat.le_add_left 1 rest.length
      simp only [UInt16.toNat_sub_of_le _ _ hpos, hentry]
      exact Nat.add_sub_cancel rest.length 1 }⟩

theorem Pool.putFree (h : Pool mq held queued free)
    (hheld : held thread = some msg) :
    Pool (mq.putFree msg) (Function.update held thread none)
      queued (msg :: free) where
  queue_linked := h.queue_linked.update (h.notMem_queued hheld) mq.msgQueueFree
  free_linked := h.free_linked.push (h.notMem_free hheld)
  tail_eq := h.tail_eq
  custody := (h.custody.put hheld).perm List.perm_middle
  entry_eq := h.entry_eq

end WncFirmware.Kernel
