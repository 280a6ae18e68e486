import Mathlib.Data.List.Nodup
import Mathlib.Data.List.Perm.Subperm
import Mathlib.Logic.Function.Basic

/-!
# Things in a store and in hands

Each of a stock of things is either in the store or in the hands of one holder,
who has one at a time.  `stock` says which things there are.
-/

namespace WncFirmware.Foundation

variable {Holder Item : Type} {stock : Item → Prop}
  {held : Holder → Option Item} {stored : List Item}

structure Custody (stock : Item → Prop) (held : Holder → Option Item)
    (stored : List Item) : Prop where
  nodup : stored.Nodup
  apart : ∀ {holder item}, held holder = some item → item ∉ stored
  once : ∀ {first second item}, held first = some item →
    held second = some item → first = second
  stock_iff : ∀ item, stock item ↔
    item ∈ stored ∨ ∃ holder, held holder = some item

namespace Custody

theorem stock_of_mem (h : Custody stock held stored) {item : Item}
    (hmem : item ∈ stored) : stock item :=
  (h.stock_iff item).mpr (.inl hmem)

theorem stock_of_held (h : Custody stock held stored) {holder : Holder}
    {item : Item} (hheld : held holder = some item) : stock item :=
  (h.stock_iff item).mpr (.inr ⟨holder, hheld⟩)

theorem perm (h : Custody stock held stored) {other : List Item}
    (hperm : other.Perm stored) : Custody stock held other where
  nodup := hperm.nodup_iff.mpr h.nodup
  apart hheld hmem := h.apart hheld (hperm.mem_iff.mp hmem)
  once := h.once
  stock_iff item := by rw [h.stock_iff, hperm.mem_iff]

theorem of_store (hnodup : stored.Nodup)
    (h : ∀ item, stock item ↔ item ∈ stored) :
    Custody stock (fun _ : Holder => none) stored where
  nodup := hnodup
  apart hheld := by cases hheld
  once hheld := by cases hheld
  stock_iff item := by simp [h]

theorem length_le (h : Custody stock held stored) {part whole : List Item}
    (hpart : part.Sublist stored) (hwhole : ∀ item, stock item → item ∈ whole) :
    part.length ≤ whole.length := by
  have hsubset : part ⊆ whole := by
    intro item hitem
    exact hwhole item (h.stock_of_mem (hpart.subset hitem))
  exact (List.subperm_of_subset (h.nodup.sublist hpart) hsubset).length_le

theorem length_lt_of_held (h : Custody stock held stored) {part whole : List Item}
    (hpart : part.Sublist stored) (hwhole : ∀ item, stock item → item ∈ whole)
    {holder : Holder} {item : Item} (hheld : held holder = some item) :
    part.length < whole.length := by
  have hnodup : (item :: part).Nodup := List.nodup_cons.mpr
    ⟨fun hmem => h.apart hheld (hpart.subset hmem), h.nodup.sublist hpart⟩
  have hsubset : item :: part ⊆ whole := by
    intro other hother
    apply hwhole
    rcases List.mem_cons.mp hother with rfl | hother
    · exact h.stock_of_held hheld
    · exact h.stock_of_mem (hpart.subset hother)
  exact (List.subperm_of_subset hnodup hsubset).length_le

variable [DecidableEq Holder] {holder : Holder} {item : Item}

theorem take (h : Custody stock held (item :: stored))
    (hempty : held holder = none) :
    Custody stock (Function.update held holder (some item)) stored where
  nodup := (List.nodup_cons.mp h.nodup).2
  apart := by
    intro other thing hheld hmem
    by_cases hsame : other = holder
    · subst hsame
      rw [Function.update_self] at hheld
      cases hheld
      exact (List.nodup_cons.mp h.nodup).1 hmem
    · rw [Function.update_of_ne hsame] at hheld
      exact h.apart hheld (List.mem_cons_of_mem item hmem)
  once := by
    intro first second thing hfirst hsecond
    have hout (other : Holder) (hother : held other = some item) : False :=
      h.apart hother List.mem_cons_self
    rw [Function.update_apply] at hfirst hsecond
    split at hfirst <;> split at hsecond
    · simp [*]
    · cases hfirst
      exact (hout second hsecond).elim
    · cases hsecond
      exact (hout first hfirst).elim
    · exact h.once hfirst hsecond
  stock_iff thing := by
    rw [h.stock_iff, List.mem_cons]
    constructor
    · rintro ((rfl | hmem) | ⟨other, hother⟩)
      · exact .inr ⟨holder, Function.update_self ..⟩
      · exact .inl hmem
      · refine .inr ⟨other, ?_⟩
        rwa [Function.update_of_ne]
        rintro rfl
        rw [hempty] at hother
        cases hother
    · rintro (hmem | ⟨other, hother⟩)
      · exact .inl (.inr hmem)
      · rw [Function.update_apply] at hother
        split at hother
        · exact .inl (.inl (Option.some.inj hother).symm)
        · exact .inr ⟨other, hother⟩

theorem put (h : Custody stock held stored) (hheld : held holder = some item) :
    Custody stock (Function.update held holder none) (item :: stored) where
  nodup := List.nodup_cons.mpr ⟨h.apart hheld, h.nodup⟩
  apart := by
    intro other thing hother hmem
    rw [Function.update_apply] at hother
    split at hother
    · cases hother
    · next hdiffers =>
      rcases List.mem_cons.mp hmem with rfl | hmem
      · exact hdiffers (h.once hother hheld)
      · exact h.apart hother hmem
  once := by
    intro first second thing hfirst hsecond
    rw [Function.update_apply] at hfirst hsecond
    split at hfirst
    · cases hfirst
    · split at hsecond
      · cases hsecond
      · exact h.once hfirst hsecond
  stock_iff thing := by
    rw [h.stock_iff, List.mem_cons]
    constructor
    · rintro (hmem | ⟨other, hother⟩)
      · exact .inl (.inr hmem)
      · by_cases hsame : other = holder
        · subst hsame
          exact .inl (.inl (Option.some.inj (hother.symm.trans hheld)))
        · exact .inr ⟨other, by rwa [Function.update_of_ne hsame]⟩
    · rintro ((rfl | hmem) | ⟨other, hother⟩)
      · exact .inr ⟨holder, hheld⟩
      · exact .inl hmem
      · rw [Function.update_apply] at hother
        split at hother
        · cases hother
        · exact .inr ⟨other, hother⟩

end Custody

end WncFirmware.Foundation
