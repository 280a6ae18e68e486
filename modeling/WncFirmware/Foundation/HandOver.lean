import WncFirmware.Foundation.Circle

/-!
# Handing over places in turn

The places of a circle pass from a giver to a taker and back, always in turn.
The places that are with the taker stand side by side: from the one that it
gives back next to the one that it gets next.
-/

namespace WncFirmware.Foundation

variable {num count back next : Nat} {taken : Nat → Bool}

structure TakenFrom (num count back next : Nat) (taken : Nat → Bool) : Prop where
  back_lt : back < num
  count_le : count ≤ num
  next_eq : next = (back + count) % num
  taken_iff : ∀ place < num, taken place = true ↔ distance num back place < count

theorem TakenFrom.next_lt (h : TakenFrom num count back next taken) :
    next < num := by
  have hback := h.back_lt
  rw [h.next_eq]
  exact Nat.mod_lt _ (by omega)

theorem TakenFrom.none (hnum : 0 < num) :
    TakenFrom num 0 0 0 fun _ => false where
  back_lt := hnum
  count_le := Nat.zero_le num
  next_eq := (Nat.zero_mod num).symm
  taken_iff place _ := by simp

theorem TakenFrom.next_free (h : TakenFrom num count back next taken)
    {place : Nat} (hplace : place < num) (hfree : taken place = false) :
    taken next = false := by
  have hdistance : ¬distance num back place < count := by
    rw [← h.taken_iff place hplace, hfree]
    exact Bool.false_ne_true
  have hpos : 0 < num := by omega
  have hlt := distance_lt hpos back place
  have hroom : count < num := by omega
  rw [← Bool.not_eq_true, h.taken_iff next h.next_lt, h.next_eq,
    distance_add h.back_lt hroom]
  exact Nat.lt_irrefl count

theorem TakenFrom.give (h : TakenFrom num count back next taken)
    (hfree : taken next = false) :
    TakenFrom num (count + 1) back (nextPlace num next)
      fun place => place == next || taken place := by
  have hback := h.back_lt
  have hpos : 0 < num := by omega
  have hroom : count < num := by
    by_contra hfull
    have htaken := (h.taken_iff next h.next_lt).mpr
      (Nat.lt_of_lt_of_le (distance_lt hpos back next) (Nat.not_lt.mp hfull))
    rw [hfree] at htaken
    cases htaken
  constructor
  · exact hback
  · exact hroom
  · rw [h.next_eq, nextPlace_mod hpos, Nat.add_assoc]
  · intro place hplace
    have hnext : place = next ↔ distance num back place = count := by
      constructor
      · rintro rfl
        rw [h.next_eq, distance_add hback hroom]
      · intro hdistance
        rw [h.next_eq, ← hdistance, add_distance hback hplace]
    rw [Bool.or_eq_true, beq_iff_eq, hnext, h.taken_iff place hplace]
    omega

theorem TakenFrom.giveBack (h : TakenFrom num count back next taken)
    (htaken : taken back = true) :
    TakenFrom num (count - 1) (nextPlace num back) next
      fun place => place != back && taken place := by
  have hback := h.back_lt
  have hpos : 0 < num := by omega
  have hcount : 0 < count :=
    Nat.zero_lt_of_lt ((h.taken_iff back hback).mp htaken)
  have hcount_le := h.count_le
  have hmoved : nextPlace num back = (back + 1) % num := by
    rw [← nextPlace_mod hpos, Nat.mod_eq_of_lt hback]
  constructor
  · exact nextPlace_lt hpos
  · omega
  · rw [h.next_eq, hmoved, Nat.mod_add_mod]
    congr 1
    omega
  · intro place hplace
    have hreach := add_distance hback hplace
    have hlt := distance_lt hpos back place
    rw [Bool.and_eq_true, bne_iff_ne, h.taken_iff place hplace]
    by_cases hsame : place = back
    · -- The place that comes back is now the last one of the way round.
      have hlast : distance num (nextPlace num back) place = num - 1 := by
        have hround : place = ((back + 1) % num + (num - 1)) % num := by
          rw [Nat.mod_add_mod, hsame]
          have hsum : back + 1 + (num - 1) = back + num := by omega
          rw [hsum, Nat.add_mod_right, Nat.mod_eq_of_lt hback]
        rw [hmoved]
        nth_rewrite 1 [hround]
        exact distance_add (Nat.mod_lt _ hpos) (by omega)
      rw [hlast]
      simp only [hsame, ne_eq, not_true_eq_false, false_and, false_iff]
      omega
    · have hfar : 0 < distance num back place := by
        apply Nat.pos_of_ne_zero
        intro hzero
        rw [hzero, Nat.add_zero, Nat.mod_eq_of_lt hback] at hreach
        exact hsame hreach.symm
      have hcloser : distance num (nextPlace num back) place =
          distance num back place - 1 := by
        have hround : place =
            ((back + 1) % num + (distance num back place - 1)) % num := by
          rw [Nat.mod_add_mod]
          have hsum : back + 1 + (distance num back place - 1) =
              back + distance num back place := by omega
          rw [hsum, hreach]
        rw [hmoved]
        conv_lhs => rw [hround]
        exact distance_add (Nat.mod_lt _ hpos) (by omega)
      rw [hcloser]
      simp only [hsame, ne_eq, not_false_eq_true, true_and]
      omega

/-! ## Counting the free places -/

def freePlaces (num : Nat) (taken : Nat → Bool) : Nat :=
  (List.range num).countP fun place => !taken place

theorem freePlaces_le (num : Nat) (taken : Nat → Bool) :
    freePlaces num taken ≤ num := by
  have hle : freePlaces num taken ≤ (List.range num).length :=
    List.countP_le_length
  rwa [List.length_range] at hle

theorem freePlaces_eq_num_iff :
    freePlaces num taken = num ↔ ∀ place < num, taken place = false := by
  have hall : freePlaces num taken = (List.range num).length ↔
      ∀ place ∈ List.range num, (!taken place) = true := List.countP_eq_length
  rw [List.length_range] at hall
  rw [hall]
  simp

theorem exists_free_of_pos (h : 0 < freePlaces num taken) :
    ∃ place < num, taken place = false := by
  obtain ⟨place, hplace, hfree⟩ := List.countP_pos_iff.mp h
  exact ⟨place, List.mem_range.mp hplace, by simpa using hfree⟩

theorem freePlaces_take {place : Nat} (hplace : place < num)
    (hfree : taken place = false) :
    freePlaces num (fun other => other == place || taken other) + 1 =
      freePlaces num taken := by
  induction num with
  | zero => cases hplace
  | succ num ih =>
      unfold freePlaces at ih ⊢
      rw [List.range_succ, List.countP_append, List.countP_append]
      by_cases hlast : place = num
      · have hbelow : (List.range num).countP
            (fun other => !(other == place || taken other)) =
              (List.range num).countP fun other => !taken other := by
          apply List.countP_congr
          intro other hother
          have hne : other ≠ place := by
            have hlt := List.mem_range.mp hother
            omega
          simp [hne]
        rw [hbelow]
        simp [← hlast, hfree]
      · have hother : num ≠ place := fun heq => hlast heq.symm
        have hbelow := ih (by omega)
        have hsingle : [num].countP
            (fun other => !(other == place || taken other)) =
              [num].countP fun other => !taken other := by
          simp [hother]
        rw [hsingle, ← hbelow]
        exact Nat.add_right_comm _ _ _

theorem freePlaces_giveBack {place : Nat} (hplace : place < num)
    (htaken : taken place = true) :
    freePlaces num (fun other => other != place && taken other) =
      freePlaces num taken + 1 := by
  have htake := @freePlaces_take num (fun other => other != place && taken other)
    place hplace (by simp)
  have hsame : (fun other => other == place || (other != place && taken other)) =
      taken := by
    funext other
    by_cases hother : other = place
    · simp [hother, htaken]
    · simp [beq_eq_false_iff_ne.mpr hother, bne]
  rw [hsame] at htake
  exact htake.symm

end WncFirmware.Foundation
