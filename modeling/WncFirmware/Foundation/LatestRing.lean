import Mathlib.Data.List.Perm.Basic
import WncFirmware.Foundation.Circle

/-!
# Rings of the latest values

A ring keeps the latest `size` values: each one is written at the current place,
which then moves on.  The history of the values has the newest one in front.
-/

namespace WncFirmware.Foundation

variable {Value : Type} {size place : Nat} {ring history : List Value}

structure Latest (size : Nat) (ring : List Value) (place : Nat)
    (history : List Value) : Prop where
  length_eq : ring.length = size
  place_eq : place = history.length % size
  filling : history.length < size →
    ring.take history.length = history.reverse
  full : size ≤ history.length →
    ring.drop place ++ ring.take place = (history.take size).reverse

theorem Latest.place_lt (h : Latest size ring place history)
    (hsize : 0 < size) : place < size := by
  rw [h.place_eq]
  exact Nat.mod_lt _ hsize

theorem Latest.empty (hlength : ring.length = size) (hsize : 0 < size) :
    Latest size ring 0 [] where
  length_eq := hlength
  place_eq := (Nat.zero_mod _).symm
  filling _ := rfl
  full hfull := absurd hfull (Nat.not_le.mpr hsize)

theorem rotate_set (value : Value) (h : place < ring.length) :
    let written := ring.set place value
    let next := nextPlace ring.length place
    written.drop next ++ written.take next =
      ring.drop (place + 1) ++ ring.take place ++ [value] := by
  intro written next
  have hdrop : written.drop (place + 1) = ring.drop (place + 1) :=
    List.drop_set_of_lt (Nat.lt_succ_self place)
  have htake : written.take (place + 1) = ring.take place ++ [value] := by
    rw [List.take_add_one, List.take_set_of_le (Nat.le_refl place)]
    simp [written, h]
  by_cases hlast : ring.length ≤ place + 1
  · have hnext : next = 0 := if_pos hlast
    have hnone : ring.drop (place + 1) = [] := List.drop_eq_nil_of_le hlast
    have hwhole : written.take (place + 1) = written :=
      List.take_of_length_le (by simpa [written] using hlast)
    rw [hnext, hnone, List.drop_zero, List.take_zero, ← hwhole, htake]
    simp
  · have hnext : next = place + 1 := if_neg hlast
    rw [hnext, hdrop, htake, List.append_assoc]

theorem Latest.push (h : Latest size ring place history) (hsize : 0 < size)
    (value : Value) :
    Latest size (ring.set place value) (nextPlace size place)
      (value :: history) := by
  have hlt := h.place_lt hsize
  have hlength := h.length_eq
  have hrotate := rotate_set value (hlength.symm ▸ hlt)
  rw [hlength] at hrotate
  constructor
  · rw [List.length_set, hlength]
  · rw [h.place_eq, nextPlace_mod hsize, List.length_cons]
  · intro hfilling
    rw [List.length_cons] at hfilling ⊢
    have hplace : place = history.length := by
      rw [h.place_eq, Nat.mod_eq_of_lt (by omega)]
    rw [List.take_add_one, hplace, List.take_set_of_le (Nat.le_refl _),
      h.filling (by omega), List.reverse_cons]
    simp [hlength, Nat.lt_of_succ_lt hfilling]
  · intro hfull
    rw [hrotate]
    rw [List.length_cons] at hfull
    obtain ⟨size, rfl⟩ : ∃ below, size = below + 1 := ⟨size - 1, by omega⟩
    rw [List.take_succ_cons, List.reverse_cons]
    congr 1
    by_cases hbefore : size + 1 ≤ history.length
    · -- The oldest value makes room.
      have hold := congrArg List.tail (h.full hbefore)
      rw [List.tail_append_of_ne_nil (by simp; omega), List.tail_drop] at hold
      rw [hold, List.tail_reverse, List.dropLast_eq_take, List.length_take,
        List.take_take, Nat.min_eq_left hbefore, Nat.add_sub_cancel,
        Nat.min_eq_left (Nat.le_succ size)]
    · have hcount : history.length = size := by omega
      have hplace : place = size := by
        rw [h.place_eq, hcount, Nat.mod_eq_of_lt (Nat.lt_succ_self size)]
      rw [List.drop_eq_nil_of_le (by omega), hplace, ← hcount,
        h.filling (by omega), List.take_length, List.nil_append]

theorem Latest.perm (h : Latest size ring place history) :
    (ring.take (min size history.length)).Perm (history.take size) := by
  by_cases hfull : size ≤ history.length
  · rw [Nat.min_eq_left hfull, ← h.length_eq, List.take_length, h.length_eq]
    have hrotate : (ring.take place ++ ring.drop place).Perm
        (ring.drop place ++ ring.take place) := List.perm_append_comm
    rw [List.take_append_drop, h.full hfull] at hrotate
    exact hrotate.trans (List.reverse_perm _)
  · rw [Nat.min_eq_right (by omega), h.filling (by omega),
      List.take_of_length_le (by omega)]
    exact List.reverse_perm _

end WncFirmware.Foundation
