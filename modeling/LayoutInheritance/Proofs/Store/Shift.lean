import LayoutInheritance.Proofs.Store.Shared

/-! Stores that are alike but for a shift. What one store has stands in the other one, too, each node a fixed number
of places later and after all else. Such stores show the same outlines, with other identities, and what is
written to both leaves them alike. -/

namespace LayoutInheritance

namespace Outline

variable (f : NodeId → NodeId)

mutual

/-- The outline with other identities. -/
def rename : Outline → Outline
  | leaf id h => leaf (f id) h
  | branch id h content => branch (f id) h (renameAll content)

def renameAll : List Outline → List Outline
  | [] => []
  | o :: rest => o.rename :: renameAll rest

end

theorem renameAll_eq_map (os : List Outline) : renameAll f os = os.map (rename f) := by
  induction os with
  | nil => rfl
  | cons o os ih => rw [renameAll, ih, List.map_cons]

@[simp] theorem id_rename (o : Outline) : (o.rename f).id = f o.id := by
  cases o <;> rfl

@[simp] theorem head_rename (o : Outline) : (o.rename f).head = o.head := by
  cases o <;> rfl

mutual

theorem markup_rename : ∀ o : Outline, (o.rename f).markup = o.markup
  | leaf _ _ => rfl
  | branch _ _ content => by rw [rename, markup, markupAll_renameAll content, markup]

/-- The identities are not shown. -/
theorem markupAll_renameAll : ∀ os : List Outline, markupAll (renameAll f os) = markupAll os
  | [] => rfl
  | o :: os => by rw [renameAll, markupAll, markup_rename o, markupAll_renameAll os, markupAll]

end

mutual

theorem parts_rename : ∀ o : Outline, (o.rename f).parts = o.parts.map (rename f)
  | leaf _ _ => rfl
  | branch _ _ content => by rw [rename, parts, partsAll_renameAll content, parts, List.map_cons, rename]

theorem partsAll_renameAll : ∀ os : List Outline, partsAll (renameAll f os) = (partsAll os).map (rename f)
  | [] => rfl
  | o :: os => by rw [renameAll, partsAll, parts_rename o, partsAll_renameAll os, partsAll, List.map_append]

end

theorem ids_renameAll (os : List Outline) : ids (renameAll f os) = (ids os).map f := by
  rw [ids, partsAll_renameAll, ids, List.map_map, List.map_map]
  exact List.map_congr_left fun o _ => id_rename f o

end Outline

namespace Store

/-- What `s` has stands in `t`, each node `k` places later, and nothing comes after it. -/
structure Shifted (k : ℕ) (s t : Store) : Prop where
  size : t.size = s.size + k
  head : ∀ x, t.head (x + k) = s.head x
  content? : ∀ x, t.content? (x + k) = (s.content? x).map (·.map (· + k))

namespace Shifted

variable {k : ℕ} {s t : Store}

/-- Nothing has been stored yet. -/
theorem empty (t : Store) : Shifted t.size {} t where
  size := (Nat.zero_add _).symm
  head x := by
    rw [head_eq, Array.getElem?_eq_none (Nat.le_add_left t.size x)]
    rfl
  content? x := content?_of_size_le (Nat.le_add_left t.size x)

theorem content (h : Shifted k s t) (x : NodeId) : t.content (x + k) = (s.content x).map (· + k) := by
  rw [Store.content, h.content?, Store.content]
  cases s.content? x <;> rfl

theorem setContent (h : Shifted k s t) (id : NodeId) (content : List NodeId) :
    Shifted k (s.setContent id content) (t.setContent (id + k) (content.map (· + k))) where
  size := by rw [size_setContent, size_setContent, h.size]
  head x := by rw [head_setContent, head_setContent, h.head]
  content? x := by
    rw [content?_setContent, content?_setContent, h.content?, h.size]
    simp only [Nat.add_right_cancel_iff, Nat.add_lt_add_iff_right]
    split <;> rfl

theorem create (h : Shifted k s t) (hd : Head Markup) (content : Option (List NodeId)) :
    (t.create hd (content.map (·.map (· + k)))).2 = (s.create hd content).2 + k ∧
      Shifted k (s.create hd content).1 (t.create hd (content.map (·.map (· + k)))).1 := by
  refine ⟨h.size, ?_, fun x => ?_, fun x => ?_⟩
  · rw [size_create, size_create, h.size]
    omega
  · rw [head_create, head_create, h.head, h.size]
    simp only [Nat.add_right_cancel_iff]
  · rw [content?_create, content?_create, h.content?, h.size]
    simp only [Nat.add_right_cancel_iff]
    split <;> rfl

mutual

theorem add : ∀ {s t : Store} (_ : Shifted k s t) (m : Markup),
    (t.add m).2 = (s.add m).2 + k ∧ Shifted k (s.add m).1 (t.add m).1
  | _, _, h, .leaf hd => h.create hd none
  | s, _, h, .branch hd content => by
    obtain ⟨hids, hs⟩ := addAll h content
    have hc := hs.create hd (some (s.addAll content).2)
    rw [Option.map_some, ← hids] at hc
    exact hc

/-- The same documents are stored alike. -/
theorem addAll : ∀ {s t : Store} (_ : Shifted k s t) (ms : List Markup),
    (t.addAll ms).2 = (s.addAll ms).2.map (· + k) ∧ Shifted k (s.addAll ms).1 (t.addAll ms).1
  | _, _, h, [] => ⟨rfl, h⟩
  | _, _, h, m :: rest => by
    obtain ⟨hid, h₁⟩ := add h m
    obtain ⟨hids, h₂⟩ := addAll h₁ rest
    refine ⟨?_, h₂⟩
    rw [Store.addAll, Store.addAll, List.map_cons, ← hid, ← hids]

end

theorem outlineTo (h : Shifted k s t) (depth : ℕ) (x : NodeId) :
    t.outlineTo depth (x + k) = (s.outlineTo depth x).rename (· + k) := by
  induction depth generalizing x with
  | zero => rw [Store.outlineTo, Store.outlineTo, Outline.rename, h.head]
  | succ depth ih =>
    rw [Store.outlineTo, Store.outlineTo, h.content?, h.head]
    cases s.content? x with
    | none => rfl
    | some ids =>
      simp only [Option.map_some, Outline.rename, Outline.renameAll_eq_map, List.map_map]
      exact congrArg (Outline.branch (x + k) (s.head x)) (List.map_congr_left fun y _ => ih y)

/-- The larger store shows no more than the other one, as this shows all that there is. -/
theorem outline (h : Shifted k s t) (hs : s.Sound) {ids : List NodeId} (hids : ∀ x ∈ ids, x < s.size) :
    t.outline (ids.map (· + k)) = Outline.renameAll (· + k) (s.outline ids) := by
  rw [Store.outline, Store.outline, Outline.renameAll_eq_map, List.map_map, List.map_map]
  refine List.map_congr_left fun x hx => ?_
  have hdepth : s.outlineTo t.size x = s.outlineTo s.size x :=
    outlineTo_eq (hs.shallow (hids x hx)) (h.size ▸ Nat.le_add_right ..)
  rw [Function.comp_apply, Function.comp_apply, h.outlineTo, hdepth]

theorem document (h : Shifted k s t) (hs : s.Sound) {ids : List NodeId} (hids : ∀ x ∈ ids, x < s.size) :
    t.document (ids.map (· + k)) = s.document ids := by
  rw [Store.document, h.outline hs hids, Outline.markupAll_renameAll, Store.document]

end Shifted

end Store

end LayoutInheritance
