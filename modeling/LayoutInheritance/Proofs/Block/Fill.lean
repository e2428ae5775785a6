import LayoutInheritance.Block.Merge
import LayoutInheritance.Proofs.Block.Collect

/-! Filling as one change. The blocks of a layout are filled one after the other, but no filling reads what
another has written: each filled block gets the content of its template block and its own old content
combined, as both were before. So a merge changes contents inside the layout alone, and what it adds to
them comes from inside the template. -/

namespace LayoutInheritance

namespace Filling

/-- The template's block that fills a node of the layout. -/
def claim? (blocks overrides : BlockTable) (id : NodeId) : Option NodeId :=
  (blocks.find? fun b => b.2 == id).bind fun b => overrides.get? b.1

variable {blocks overrides : BlockTable} {name : String} {id x : NodeId}

theorem claim?_cons_self (name : String) (id : NodeId) (blocks overrides : BlockTable) :
    claim? ((name, id) :: blocks) overrides id = overrides.get? name := by
  simp [claim?]

theorem claim?_cons_ne (h : x ≠ id) :
    claim? ((name, id) :: blocks) overrides x = claim? blocks overrides x := by
  simp [claim?, Ne.symm h]

theorem claim?_eq_none (h : x ∉ blocks.map Prod.snd) : claim? blocks overrides x = none := by
  have hf : (blocks.find? fun b => b.2 == x) = none := by
    rw [List.find?_eq_none]
    intro b hb hx
    exact h (List.mem_map.2 ⟨b, hb, eq_of_beq hx⟩)
  rw [claim?, hf]
  rfl

theorem exists_of_claim? {source : NodeId} (h : claim? blocks overrides x = some source) :
    ∃ name, (name, x) ∈ blocks ∧ overrides.get? name = some source := by
  obtain ⟨b, hf, hg⟩ := Option.bind_eq_some_iff.1 h
  refine ⟨b.1, ?_, hg⟩
  have hx : b.2 = x := by simpa using List.find?_some hf
  exact hx ▸ List.mem_of_find?_eq_some hf

theorem claim?_of_mem (hi : (blocks.map Prod.snd).Nodup) (h : (name, x) ∈ blocks) :
    claim? blocks overrides x = overrides.get? name := by
  induction blocks with
  | nil => exact nomatch h
  | cons b blocks ih =>
    obtain ⟨name', id⟩ := b
    have hi' := List.nodup_cons.1 hi
    rcases List.mem_cons.1 h with he | h
    · cases he
      exact claim?_cons_self ..
    · have hx : x ∈ blocks.map Prod.snd := List.mem_map.2 ⟨_, h, rfl⟩
      have hne : x ≠ id := fun he => hi'.1 (he ▸ hx)
      rw [claim?_cons_ne hne]
      exact ih hi'.2 h

theorem claim?_remove (h : name ∉ Dictionary.keys blocks) :
    claim? blocks (overrides.remove name) x = claim? blocks overrides x := by
  unfold claim?
  cases hf : blocks.find? fun b => b.2 == x with
  | none => rfl
  | some b =>
    have hn : b.1 ≠ name := fun he => h (he ▸ List.mem_map_of_mem (List.mem_of_find?_eq_some hf))
    simp [Dictionary.get?_remove, hn]

/-- The filling of all `blocks` at once: a filled block takes its content from what was there before. -/
structure Filled (f : Filling) (blocks : BlockTable) (g : Filling) : Prop where
  size : g.store.size = f.store.size
  head : ∀ x, g.store.head x = f.store.head x
  content? : ∀ x < f.store.size, g.store.content? x =
    match claim? blocks f.unclaimed x with
    | some source =>
      some ((BlockType.ofHead (f.store.head source)).combine (f.store.content source) (f.store.content x))
    | none => f.store.content? x
  unclaimed : g.unclaimed = f.unclaimed.filter fun e => !blocks.has e.1
  filled : g.filled = f.filled ++ blocks.filterMap fun b =>
    (f.unclaimed.get? b.1).map fun source => (b.1, BlockType.ofHead (f.store.head source))

theorem Filled.nil (f : Filling) : f.Filled [] f where
  size := rfl
  head _ := rfl
  content? _ _ := rfl
  unclaimed := by simp [Dictionary.has]
  filled := by simp

theorem Filled.skip {f g : Filling} (h : f.Filled blocks g) (hn : f.unclaimed.get? name = none)
    (hi : id ∉ blocks.map Prod.snd) : f.Filled ((name, id) :: blocks) g where
  size := h.size
  head := h.head
  content? x hx := by
    rw [h.content? x hx]
    by_cases he : x = id
    · rw [he, claim?_cons_self, claim?_eq_none hi, hn]
    · rw [claim?_cons_ne he]
  unclaimed := by
    rw [h.unclaimed]
    apply List.filter_congr
    intro e he
    have hne : e.1 ≠ name := fun h' =>
      Dictionary.get?_eq_none_iff.1 hn (h' ▸ List.mem_map_of_mem he)
    simp [Dictionary.has, Dictionary.get?_cons, hne]
  filled := by rw [h.filled, List.filterMap_cons_none (by rw [hn]; rfl)]

theorem Filled.take {f g : Filling} {source : NodeId} (hn : f.unclaimed.get? name = some source)
    (h : (f.fill name id).Filled blocks g) (hk : name ∉ Dictionary.keys blocks)
    (hi : id ∉ blocks.map Prod.snd)
    (hs : ∀ e ∈ f.unclaimed, e.2 ∉ ((name, id) :: blocks).map Prod.snd) :
    f.Filled ((name, id) :: blocks) g := by
  have hf : f.fill name id =
      { store := f.store.setContent id ((BlockType.ofHead (f.store.head source)).combine
          (f.store.content source) (f.store.content id))
        filled := f.filled ++ [(name, BlockType.ofHead (f.store.head source))]
        unclaimed := f.unclaimed.remove name } := by
    simp only [fill, hn]
  rw [hf] at h
  have source_ne : ∀ n y, f.unclaimed.get? n = some y → y ≠ id := by
    intro n y hy he
    exact hs _ (Dictionary.mem_of_get? hy) (he ▸ List.mem_cons_self ..)
  refine ⟨by simpa using h.size, fun x => by simpa using h.head x, ?_, ?_, ?_⟩
  · intro x hx
    rw [h.content? x (by simpa using hx), claim?_remove hk]
    by_cases he : x = id
    · subst he
      rw [claim?_cons_self, claim?_eq_none hi, hn]
      exact Store.content?_setContent_self hx _
    · rw [claim?_cons_ne he]
      cases hc : claim? blocks f.unclaimed x with
      | none => exact Store.content?_setContent_ne he _
      | some y =>
        obtain ⟨n, -, hy⟩ := exists_of_claim? hc
        simp only [Store.head_setContent, Store.content_setContent_ne he,
          Store.content_setContent_ne (source_ne n y hy)]
  · rw [h.unclaimed, Dictionary.remove, List.filter_filter]
    apply List.filter_congr
    intro e _
    by_cases he : e.1 = name <;> simp [Dictionary.has, Dictionary.get?_cons, he]
  · rw [h.filled, List.filterMap_cons_some (by rw [hn]; rfl), List.append_assoc, List.singleton_append]
    refine congrArg (f.filled ++ (name, BlockType.ofHead (f.store.head source)) :: ·) (List.filterMap_congr ?_)
    intro b hb
    have hne : b.1 ≠ name := fun h' => hk (h' ▸ List.mem_map_of_mem hb)
    simp [Dictionary.get?_remove, hne]

/-- Filling block after block is filling all of them at once, as no block of the template is one of the
layout. -/
theorem filled_fillAll {f : Filling} (hk : (Dictionary.keys blocks).Nodup) (hi : (blocks.map Prod.snd).Nodup)
    (hs : ∀ e ∈ f.unclaimed, e.2 ∉ blocks.map Prod.snd) : f.Filled blocks (f.fillAll blocks) := by
  induction blocks generalizing f with
  | nil => exact .nil f
  | cons b blocks ih =>
    obtain ⟨name, id⟩ := b
    have hk' := List.nodup_cons.1 hk
    have hi' := List.nodup_cons.1 hi
    change f.Filled _ ((f.fill name id).fillAll blocks)
    cases hn : f.unclaimed.get? name with
    | none =>
      have hf : f.fill name id = f := by simp only [fill, hn]
      rw [hf]
      exact (ih hk'.2 hi'.2 fun e he h => hs e he (List.mem_cons_of_mem _ h)).skip hn hi'.1
    | some source =>
      refine Filled.take hn (ih hk'.2 hi'.2 ?_) hk'.1 hi'.1 hs
      intro e he h
      simp only [fill, hn, Dictionary.remove, List.mem_filter] at he
      exact hs e he.1 (List.mem_cons_of_mem _ h)

end Filling

theorem BlockType.mem_combine {α : Type} {type : BlockType} {template layout : List α} {a : α}
    (h : a ∈ type.combine template layout) : a ∈ template ∨ a ∈ layout := by
  cases type with
  | replace => exact .inl h
  | prepend => exact List.mem_append.1 h
  | append => exact (List.mem_append.1 h).symm

namespace Store

variable {s : Store} {layout template : List NodeId}

theorem merge_of_blocks {blocks overrides : BlockTable} (hb : s.blocks layout = .ok blocks)
    (ho : s.blocks template = .ok overrides) :
    s.merge layout template =
      let f := Filling.fillAll { store := s, unclaimed := overrides } blocks
      { store := f.store
        filled := f.filled
        issue? := f.unclaimed.head?.map fun left =>
          .unmatchedBlock left.1 (some (f.store.head left.2).location) } := by
  rw [merge, hb, ho]

/-- The blocks of a layout are filled at once by nodes outside of it. -/
theorem filled_of_blocks {blocks claims : BlockTable} (hb : s.blocks layout = .ok blocks)
    (hc : ∀ e ∈ claims, ¬ s.Within layout e.2) :
    Filling.Filled { store := s, unclaimed := claims } blocks
      (Filling.fillAll { store := s, unclaimed := claims } blocks) := by
  refine Filling.filled_fillAll (nodup_blocks hb) (nodup_blocks_nodes hb) fun e he hm => ?_
  obtain ⟨b, hb', hbe⟩ := List.mem_map.1 hm
  exact hc e he (hbe ▸ (mem_blocks hb hb').1)

/-- What a merge does to the graph: contents change inside the layout alone, and gain only what lies
directly in nodes inside the template. -/
structure Grafts (s : Store) (layout template : List NodeId) (s' : Store) : Prop where
  size : s'.size = s.size
  head : ∀ x, s'.head x = s.head x
  frame : ∀ x, ¬ s.Within layout x → s'.content? x = s.content? x
  content : ∀ x, ∀ y ∈ s'.content x, y ∈ s.content x ∨ ∃ source, s.Within template source ∧ y ∈ s.content source
  isTag : ∀ x, s'.content? x ≠ s.content? x → (s.head x).isTag

theorem Grafts.refl (s : Store) (layout template : List NodeId) : s.Grafts layout template s where
  size := rfl
  head _ := rfl
  frame _ _ := rfl
  content _ _ hy := .inl hy
  isTag _ h := absurd rfl h

/-- The store of a merge, where nothing lies both in the layout and in the template. -/
theorem merge_grafts (hd : ∀ x, s.Within layout x → ¬ s.Within template x) :
    s.Grafts layout template (s.merge layout template).store := by
  unfold merge
  split
  · exact .refl ..
  · exact .refl ..
  · next blocks overrides hb ho =>
    have hf := filled_of_blocks hb fun e he hx => hd e.2 hx (mem_blocks ho he).1
    set f := Filling.fillAll { store := s, unclaimed := overrides } blocks
    have claimed : ∀ x source, Filling.claim? blocks overrides x = some source →
        s.Within layout x ∧ (s.head x).isTag ∧ s.Within template source := by
      intro x source hc
      obtain ⟨n, hn, hg⟩ := Filling.exists_of_claim? hc
      have hx := mem_blocks hb hn
      exact ⟨hx.1, Head.isTag_of_isBlock hx.2.1, (mem_blocks ho (Dictionary.mem_of_get? hg)).1⟩
    have cases : ∀ x, f.store.content? x = s.content? x ∨ ∃ source,
        Filling.claim? blocks overrides x = some source ∧ f.store.content? x =
          some ((BlockType.ofHead (s.head source)).combine (s.content source) (s.content x)) := by
      intro x
      by_cases hx : x < s.size
      · have := hf.content? x hx
        cases hc : Filling.claim? blocks overrides x with
        | none => exact .inl (by simpa only [hc] using this)
        | some source => exact .inr ⟨source, rfl, by simpa only [hc] using this⟩
      · rw [content?_of_size_le (not_lt.1 hx), content?_of_size_le (hf.size.trans_le (not_lt.1 hx))]
        exact .inl rfl
    refine ⟨hf.size, hf.head, ?_, ?_, ?_⟩
    · intro x hx
      rcases cases x with h | ⟨source, hc, -⟩
      · exact h
      · exact absurd (claimed x source hc).1 hx
    · intro x y hy
      rcases cases x with h | ⟨source, hc, h⟩
      · exact .inl (content_eq_of_content? h ▸ hy)
      · rw [Store.content, h, Option.getD_some] at hy
        rcases BlockType.mem_combine hy with hy | hy
        · exact .inr ⟨source, (claimed x source hc).2.2, hy⟩
        · exact .inl hy
    · intro x hx
      rcases cases x with h | ⟨source, hc, -⟩
      · exact absurd h hx
      · exact (claimed x source hc).2.1

end Store

end LayoutInheritance
