import Mathlib.Data.List.Nodup
import Mathlib.Data.List.Range
import Mathlib.Data.Nat.ModEq

/-!
# Places on a circle

The places `0` to `num - 1` in a circle.  A walk of `count` places from a place
inside meets every place at most once while `count ≤ num`, and is back where it
began after `num` steps.  Who serves the places in turn comes closer to every
place that it passes by.
-/

namespace WncFirmware.Foundation

def nextPlace (num place : Nat) : Nat := if num ≤ place + 1 then 0 else place + 1

def walk (num : Nat) : Nat → Nat → List Nat
  | 0, _ => []
  | count + 1, place => place :: walk num count (nextPlace num place)

theorem nextPlace_lt {num place : Nat} (h : 0 < num) :
    nextPlace num place < num := by
  unfold nextPlace
  split <;> omega

theorem nextPlace_mod {num : Nat} (h : 0 < num) (place : Nat) :
    nextPlace num (place % num) = (place + 1) % num := by
  have hlt := Nat.mod_lt place h
  have hmod : (place + 1) % num = (place % num + 1) % num :=
    (Nat.mod_add_mod place num 1).symm
  rw [nextPlace, hmod]
  split
  · have heq : place % num + 1 = num := by omega
    rw [heq, Nat.mod_self]
  · exact (Nat.mod_eq_of_lt (by omega)).symm

theorem add_mod_ne {num place step : Nat} (hplace : place < num)
    (hpos : 0 < step) (hlt : step < num) : (place + step) % num ≠ place := by
  intro heq
  by_cases hwrap : place + step < num
  · rw [Nat.mod_eq_of_lt hwrap] at heq
    omega
  · rw [Nat.mod_eq_sub_mod (by omega), Nat.mod_eq_of_lt (by omega)] at heq
    omega

theorem walk_eq_map {num : Nat} (hnum : 0 < num) (count place : Nat) :
    walk num count (place % num) =
      (List.range count).map fun step => (place + step) % num := by
  induction count generalizing place with
  | zero => rfl
  | succ count ih =>
      rw [walk, nextPlace_mod hnum, ih, List.range_succ_eq_map, List.map_cons,
        List.map_map, Nat.add_zero]
      congr 1
      apply List.map_congr_left
      intro step _
      simp only [Function.comp_apply]
      congr 1
      omega

theorem walk_nodup {num count : Nat} (hnum : 0 < num) (hcount : count ≤ num)
    (place : Nat) : (walk num count (place % num)).Nodup := by
  rw [walk_eq_map hnum]
  apply List.Nodup.map_on
  · intro first hfirst second hsecond heq
    rw [List.mem_range] at hfirst hsecond
    have hmod : Nat.ModEq num first second :=
      Nat.ModEq.add_left_cancel' place heq
    exact hmod.eq_of_lt_of_lt (by omega) (by omega)
  · exact List.nodup_range

/-! ## The way to a place -/

def distance (num start place : Nat) : Nat := (place + (num - start)) % num

theorem distance_lt {num : Nat} (h : 0 < num) (start place : Nat) :
    distance num start place < num :=
  Nat.mod_lt _ h

theorem add_distance {num start place : Nat} (hstart : start < num)
    (hplace : place < num) : (start + distance num start place) % num = place := by
  rw [distance, Nat.add_mod_mod]
  have hsum : start + (place + (num - start)) = place + num := by omega
  rw [hsum, Nat.add_mod_right, Nat.mod_eq_of_lt hplace]

theorem distance_add {num start step : Nat} (hstart : start < num)
    (hstep : step < num) : distance num start ((start + step) % num) = step := by
  rw [distance, Nat.mod_add_mod]
  have hsum : start + step + (num - start) = step + num := by omega
  rw [hsum, Nat.add_mod_right, Nat.mod_eq_of_lt hstep]

theorem mem_walk {num start place : Nat} (hstart : start < num)
    (hplace : place < num) : place ∈ walk num num start := by
  have hpos : 0 < num := by omega
  have hwalk := walk_eq_map hpos num start
  rw [Nat.mod_eq_of_lt hstart] at hwalk
  rw [hwalk, List.mem_map]
  exact ⟨distance num start place, List.mem_range.mpr (distance_lt hpos _ _),
    add_distance hstart hplace⟩

theorem distance_nextPlace {num start served place : Nat}
    (hstart : start < num) (hserved : served < num) (hplace : place < num)
    (h : distance num start served < distance num start place) :
    distance num (nextPlace num served) place <
      distance num start place := by
  have hpos : 0 < num := by omega
  have hlt := distance_lt hpos start place
  generalize hfirst : distance num start served = first at h
  generalize hsecond : distance num start place = second at h hlt ⊢
  have hmet : (start + first) % num = served :=
    hfirst ▸ add_distance hstart hserved
  have hwanted : (start + second) % num = place :=
    hsecond ▸ add_distance hstart hplace
  have hnext : nextPlace num served = (start + first + 1) % num := by
    rw [← hmet, nextPlace_mod hpos]
  have hrest : place = ((start + first + 1) % num + (second - first - 1)) %
      num := by
    rw [Nat.mod_add_mod, ← hwanted]
    congr 1
    omega
  rw [hnext, hrest, distance_add (Nat.mod_lt _ hpos) (by omega)]
  omega

theorem find?_walk {num start place : Nat} {property : Nat → Bool}
    (hstart : start < num)
    (h : (walk num num start).find? property = some place) :
    place < num ∧ property place = true ∧ ∀ other < num,
      property other = true →
        distance num start place ≤ distance num start other := by
  have hpos : 0 < num := by omega
  have hwalk := walk_eq_map hpos num start
  rw [Nat.mod_eq_of_lt hstart] at hwalk
  rw [hwalk, List.find?_map, Option.map_eq_some_iff] at h
  obtain ⟨step, hfind, rfl⟩ := h
  rw [List.find?_range_eq_some] at hfind
  obtain ⟨hproperty, hstep, hearlier⟩ := hfind
  refine ⟨Nat.mod_lt _ hpos, hproperty, ?_⟩
  intro other hother hhas
  rw [distance_add hstart (List.mem_range.mp hstep)]
  by_contra hbefore
  have hnot := hearlier (distance num start other) (Nat.not_le.mp hbefore)
  simp [add_distance hstart hother, hhas] at hnot

end WncFirmware.Foundation
