import Mathlib.Data.List.Basic
import Mathlib.Logic.Function.Basic

/-!
# Singly linked lists in memory

`next` holds the link of each node.  `Linked next start nodes` says that whoever
follows the links from `start` meets just `nodes`, and then the null pointer.
-/

namespace WncFirmware.Foundation

variable {Node : Type}

def Linked (next : Node → Option Node) : Option Node → List Node → Prop
  | start, [] => start = none
  | start, node :: nodes => start = some node ∧ Linked next (next node) nodes

variable {next other : Node → Option Node} {start : Option Node}
  {nodes : List Node} {node : Node}

@[simp] theorem linked_nil : Linked next start [] ↔ start = none := Iff.rfl

@[simp] theorem linked_cons : Linked next start (node :: nodes) ↔
    start = some node ∧ Linked next (next node) nodes := Iff.rfl

theorem Linked.start_eq_head? (h : Linked next start nodes) :
    start = nodes.head? := by
  cases nodes with
  | nil => exact h
  | cons node nodes => exact h.1

theorem Linked.start_eq_none_iff (h : Linked next start nodes) :
    start = none ↔ nodes = [] := by
  rw [h.start_eq_head?, List.head?_eq_none_iff]

theorem Linked.of_start (h : Linked next (some node) nodes) :
    ∃ rest, nodes = node :: rest ∧ Linked next (next node) rest := by
  cases nodes with
  | nil => exact absurd h (by simp)
  | cons first rest =>
      obtain rfl : node = first := Option.some.inj h.1
      exact ⟨rest, rfl, h.2⟩

theorem Linked.congr (h : Linked next start nodes)
    (hsame : ∀ node ∈ nodes, other node = next node) :
    Linked other start nodes := by
  induction nodes generalizing start with
  | nil => exact h
  | cons node nodes ih =>
      refine ⟨h.1, ?_⟩
      rw [hsame node (by simp)]
      exact ih h.2 fun later hlater => hsame later (by simp [hlater])

variable [DecidableEq Node]

theorem Linked.update (h : Linked next start nodes) (hnode : node ∉ nodes)
    (link : Option Node) :
    Linked (Function.update next node link) start nodes := by
  apply h.congr
  intro later hlater
  apply Function.update_of_ne
  rintro rfl
  exact hnode hlater

theorem Linked.push (h : Linked next start nodes) (hnode : node ∉ nodes) :
    Linked (Function.update next node start) (some node) (node :: nodes) := by
  refine ⟨rfl, ?_⟩
  rw [Function.update_self]
  exact h.update hnode start

theorem Linked.append (h : Linked next start nodes) (hnodup : nodes.Nodup)
    (hnode : node ∉ nodes) (hnull : next node = none) {last : Node}
    (hlast : nodes.getLast? = some last) :
    Linked (Function.update next last (some node)) start (nodes ++ [node]) := by
  induction nodes generalizing start with
  | nil => exact absurd hlast (by simp)
  | cons first rest ih =>
      obtain ⟨hfirst, hnodup⟩ := List.nodup_cons.mp hnodup
      obtain ⟨hne, hnode⟩ := not_or.mp (mt List.mem_cons.mpr hnode)
      refine ⟨h.1, ?_⟩
      cases hrest : rest with
      | nil =>
          subst hrest
          obtain rfl : first = last := by simpa using hlast
          rw [Function.update_self]
          exact ⟨rfl, by rw [Function.update_of_ne hne]; exact hnull⟩
      | cons second later =>
          have hlater : rest.getLast? = some last := by
            rw [hrest] at hlast ⊢
            simpa using hlast
          have hdiffers : first ≠ last := by
            rintro rfl
            exact hfirst (List.mem_of_getLast? hlater)
          rw [Function.update_of_ne hdiffers, ← hrest]
          exact ih h.2 hnodup hnode hlater

end WncFirmware.Foundation
