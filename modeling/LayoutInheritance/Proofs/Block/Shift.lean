import LayoutInheritance.Proofs.Block.Substitution
import LayoutInheritance.Proofs.Store.Shift

/-! Merges in stores that are alike but for a shift. Which block stands for a name, and what fills it, is a matter of
heads and of which places are the same node, and not of the identities that the nodes have. So a merge does the
same in both stores, and a substitution into outlines does not depend on their identities. -/

namespace LayoutInheritance

namespace Outline

variable {f : NodeId → NodeId} {α : Type}

mutual

theorem visited_rename : ∀ o : Outline, (o.rename f).visited = o.visited.map (rename f)
  | leaf id h => by
    rw [rename, visited, visited]
    split <;> rfl
  | branch id h content => by
    rw [rename, visited, visited, List.map_append, visitedAll_renameAll content]
    congr 1
    · split <;> rfl
    · split <;> rfl

theorem visitedAll_renameAll : ∀ os : List Outline, visitedAll (renameAll f os) = (visitedAll os).map (rename f)
  | [] => rfl
  | o :: os => by
    rw [renameAll, visitedAll, visitedAll, List.map_append, visited_rename o, visitedAll_renameAll os]

end

theorem last?_renameAll (name : String) (os : List Outline) :
    last? name (renameAll f os) = (last? name os).map (rename f) := by
  rw [last?, last?, visitedAll_renameAll, List.map_map, ← latest?_map, List.map_map]
  refine congrArg (latest? name) (List.map_congr_left fun o _ => ?_)
  rw [Function.comp_apply, Function.comp_apply, head_rename]

/-- Identities matter only in that they are the same or not. -/
theorem filler?_rename (hf : Function.Injective f) (layout : List Outline) (source? : String → Option α) (o : Outline) :
    filler? (renameAll f layout) source? (o.rename f) = filler? layout source? o := by
  unfold filler?
  rw [head_rename]
  cases o.head.blockName? with
  | none => rfl
  | some name =>
    have hlast : (last? name (renameAll f layout)).map id = some (o.rename f).id ↔
        (last? name layout).map id = some o.id := by
      rw [last?_renameAll]
      cases last? name layout with
      | none => simp
      | some p => simp [hf.eq_iff]
    simp only [Option.bind_some, hlast]

mutual

theorem substituted_rename {source? source?' : Outline → Option Markup}
    (hs : ∀ o, source?' (o.rename f) = source? o) : ∀ o : Outline,
      (o.rename f).substituted source?' = o.substituted source?
  | leaf id h => by
    rw [substituted_eq, substituted_eq, hs, head_rename]
    rfl
  | branch id h content => by
    rw [substituted_eq, substituted_eq, hs, head_rename]
    simp only [rename, Outline.content, content?, Option.map_some, Option.getD_some,
      substitutedAll_renameAll hs content]

theorem substitutedAll_renameAll {source? source?' : Outline → Option Markup}
    (hs : ∀ o, source?' (o.rename f) = source? o) : ∀ os : List Outline,
      substitutedAll source?' (renameAll f os) = substitutedAll source? os
  | [] => rfl
  | o :: os => by
    rw [renameAll, substitutedAll, substituted_rename hs o, substitutedAll_renameAll hs os, substitutedAll]

end

end Outline

theorem substitution_renameAll {f : NodeId → NodeId} (hf : Function.Injective f) (layout : List Outline)
    (template : List Markup) :
    substitution (Outline.renameAll f layout) template = substitution layout template :=
  Outline.substitutedAll_renameAll (Outline.filler?_rename hf layout _) layout

/-! ### In place -/

/-- Fillings that are alike but for a shift. -/
structure Filling.Shifted (k : ℕ) (f g : Filling) : Prop where
  store : Store.Shifted k f.store g.store
  filled : g.filled = f.filled
  unclaimed : g.unclaimed = f.unclaimed.mapValues (· + k)

namespace Filling.Shifted

variable {k : ℕ} {f g : Filling}

theorem fill (h : Shifted k f g) (name : String) (block : NodeId) :
    Shifted k (f.fill name block) (g.fill name (block + k)) := by
  have hget : g.unclaimed.get? name = (f.unclaimed.get? name).map (· + k) := by
    rw [h.unclaimed, Dictionary.get?_mapValues]
  cases hs : f.unclaimed.get? name with
  | none =>
    simp only [Filling.fill, hget, hs, Option.map_none]
    exact h
  | some source =>
    simp only [Filling.fill, hget, hs, Option.map_some, h.store.head, h.store.content, ← BlockType.map_combine]
    refine ⟨h.store.setContent _ _, by rw [h.filled], ?_⟩
    rw [h.unclaimed, Dictionary.remove, Dictionary.remove, Dictionary.mapValues, Dictionary.mapValues, List.filter_map]
    rfl

theorem fillAll (h : Shifted k f g) (blocks : BlockTable) :
    Shifted k (f.fillAll blocks) (g.fillAll (blocks.mapValues (· + k))) := by
  induction blocks generalizing f g with
  | nil => exact h
  | cons b blocks ih => exact ih (h.fill b.1 b.2)

/-- The same block is left. -/
theorem issue (h : Shifted k f g) :
    (g.unclaimed.head?.map fun left => Issue.unmatchedBlock left.1 (some (g.store.head left.2).location)) =
      f.unclaimed.head?.map fun left => .unmatchedBlock left.1 (some (f.store.head left.2).location) := by
  have hleft : g.unclaimed.head? = f.unclaimed.head?.map fun e => (e.1, e.2 + k) := by
    rw [h.unclaimed]
    exact List.head?_map
  rw [hleft, Option.map_map]
  refine Option.map_congr fun e _ => ?_
  rw [Function.comp_apply, h.store.head]

end Filling.Shifted

/-- A tree that is the same but for the identities of its nodes has the same blocks but for theirs. -/
theorem Store.blocks_of_renamed {s t : Store} {tree tree' : List NodeId} {f : NodeId → NodeId}
    (h : t.outline tree' = Outline.renameAll f (s.outline tree)) :
    t.blocks tree' = (s.blocks tree).map (·.mapValues f) := by
  rw [blocks_eq, blocks_eq, h, Outline.visitedAll_renameAll, ← enterAll_map, List.map_map, List.map_map]
  refine congrArg (enterAll []) (List.map_congr_left fun o _ => ?_)
  rw [Function.comp_apply, Function.comp_apply, Outline.entry, Outline.head_rename, Outline.id_rename, Outline.entry]

namespace Store.Shifted

variable {k : ℕ} {s t : Store} {layout template : List NodeId}

theorem blocks (h : Shifted k s t) (hs : s.Sound) {tree : List NodeId} (ht : ∀ x ∈ tree, x < s.size) :
    t.blocks (tree.map (· + k)) = (s.blocks tree).map (·.mapValues (· + k)) :=
  blocks_of_renamed (h.outline hs ht)

/-- A merge does the same in both stores. -/
theorem merge (h : Shifted k s t) (hs : s.Sound) (hl : ∀ x ∈ layout, x < s.size) (ht : ∀ x ∈ template, x < s.size) :
    (t.merge (layout.map (· + k)) (template.map (· + k))).issue? = (s.merge layout template).issue? ∧
      (t.merge (layout.map (· + k)) (template.map (· + k))).filled = (s.merge layout template).filled ∧
      Shifted k (s.merge layout template).store (t.merge (layout.map (· + k)) (template.map (· + k))).store := by
  rw [Store.merge, Store.merge, h.blocks hs hl, h.blocks hs ht]
  cases s.blocks layout with
  | error l => exact ⟨rfl, rfl, h⟩
  | ok blocks =>
    cases s.blocks template with
    | error l => exact ⟨rfl, rfl, h⟩
    | ok overrides =>
      have hstart : Filling.Shifted k { store := s, unclaimed := overrides }
          { store := t, unclaimed := overrides.mapValues (· + k) } := ⟨h, rfl, rfl⟩
      have hf := hstart.fillAll blocks
      exact ⟨hf.issue, hf.filled, hf.store⟩

end Store.Shifted

end LayoutInheritance
