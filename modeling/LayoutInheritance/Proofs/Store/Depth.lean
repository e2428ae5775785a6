import LayoutInheritance.Proofs.Store.Graph
import Mathlib.Data.Finset.Card
import Mathlib.Data.Finset.Range

/-! The depth of a store. When no node lies inside itself, a node has fewer nodes inside it than any node
that it lies in, so no way into contents is longer than the store. What is read down to that depth is read
whole. -/

namespace LayoutInheritance.Store

open Relation

variable {s : Store} {x y : NodeId} {tree : List NodeId} {depth : Nat}

/-- The ways from a node into contents pass at most `depth` nodes. -/
def Shallow (s : Store) : (depth : Nat) → NodeId → Prop
  | 0, _ => False
  | depth + 1, x => ∀ y ∈ s.content x, s.Shallow depth y

theorem Shallow.succ (h : s.Shallow depth x) : s.Shallow (depth + 1) x := by
  induction depth generalizing x with
  | zero => exact h.elim
  | succ depth ih => exact fun y hy => ih (h y hy)

theorem Shallow.inside (h : s.Shallow depth x) (hy : ReflTransGen s.Inside y x) : s.Shallow depth y := by
  induction hy using ReflTransGen.head_induction_on with
  | refl => exact h
  | head hyz _ ih =>
    cases depth with
    | zero => exact ih.elim
    | succ depth => exact (ih _ hyz).succ

/-- A tree without cycles: all that is in it is stored, and no node of it lies inside itself. -/
structure Acyclic (s : Store) (tree : List NodeId) : Prop where
  lt_size : ∀ x, s.Within tree x → x < s.size
  not_inside_self : ∀ x, s.Within tree x → ¬ TransGen s.Inside x x

theorem Sound.acyclic_of_lt (h : s.Sound) (hlt : ∀ x ∈ tree, x < s.size) : s.Acyclic tree where
  lt_size _ hx := hx.of_closed (P := (· < s.size)) (fun x _ => h.closed x) hlt
  not_inside_self x _ := h.not_inside_self x

open Classical in
/-- The nodes strictly inside a node. -/
noncomputable def insides (s : Store) (x : NodeId) : Finset NodeId :=
  {y ∈ Finset.range s.size | TransGen s.Inside y x}

section

variable (h : s.Acyclic tree) (hx : s.Within tree x)
include h hx

theorem mem_insides : y ∈ s.insides x ↔ TransGen s.Inside y x := by
  classical
  rw [insides, Finset.mem_filter, Finset.mem_range, and_iff_right_iff_imp]
  exact fun hy => h.lt_size y (hx.below hy.to_reflTransGen)

/-- A node has fewer nodes inside it than a node that it stands in. -/
theorem card_insides_lt (hy : y ∈ s.content x) : (s.insides y).card < (s.insides x).card := by
  have hy' : s.Within tree y := hx.below (.single hy)
  apply Finset.card_lt_card
  rw [Finset.ssubset_iff_of_subset]
  · refine ⟨y, (mem_insides h hx).2 (.single hy), fun hm => ?_⟩
    exact h.not_inside_self y hy' ((mem_insides h hy').1 hm)
  · intro z hz
    exact (mem_insides h hx).2 (((mem_insides h hy').1 hz).tail hy)

theorem card_insides_lt_size : (s.insides x).card < s.size := by
  have hsub : s.insides x ⊂ Finset.range s.size := by
    classical
    rw [insides, Finset.ssubset_iff_of_subset (Finset.filter_subset _ _)]
    refine ⟨x, Finset.mem_range.2 (h.lt_size x hx), fun hm => ?_⟩
    exact h.not_inside_self x hx ((mem_insides h hx).1 hm)
  have hcard := Finset.card_lt_card hsub
  rwa [Finset.card_range] at hcard

omit hx in
theorem shallow_of_card_lt (hx : s.Within tree x) (hd : (s.insides x).card < depth) : s.Shallow depth x := by
  induction depth generalizing x with
  | zero => exact absurd hd (Nat.not_lt_zero _)
  | succ depth ih =>
    intro y hy
    apply ih (hx.below (.single hy))
    have := card_insides_lt h hx hy
    omega

/-- The store is deep enough for each node of the tree. -/
theorem Acyclic.shallow : s.Shallow s.size x :=
  shallow_of_card_lt h hx (card_insides_lt_size h hx)

end

theorem Sound.shallow (h : s.Sound) (hx : x < s.size) : s.Shallow s.size x := by
  have hself : s.Within [x] x := ⟨x, List.mem_singleton_self x, .refl⟩
  exact (h.acyclic_of_lt (by simpa using hx)).shallow hself

/-- An outline that is deep enough shows everything. -/
theorem outlineTo_eq (h : s.Shallow depth x) {depth' : Nat} (hd : depth ≤ depth') :
    s.outlineTo depth' x = s.outlineTo depth x := by
  induction depth generalizing x depth' with
  | zero => exact h.elim
  | succ depth ih =>
    obtain ⟨depth', rfl⟩ := Nat.exists_eq_add_of_le' (Nat.one_le_of_lt hd)
    rw [outlineTo, outlineTo]
    cases hc : s.content? x with
    | none => rfl
    | some ids =>
      have hm : ids.map (s.outlineTo depth') = ids.map (s.outlineTo depth) := by
        apply List.map_congr_left
        intro y hy
        have hy' : y ∈ s.content x := by rwa [content, hc]
        exact ih (h y hy') (Nat.le_of_succ_le_succ hd)
      simp only [hm]

end LayoutInheritance.Store
