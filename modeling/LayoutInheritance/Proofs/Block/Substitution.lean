import LayoutInheritance.Proofs.Block.Refinement
import LayoutInheritance.Proofs.Store.Shared

/-! A merge as a substitution. The block of a layout that is visited last under its name takes the content of
the block that the template visits last under that name, wherever the two stand, and all these contents are
put in at once. This holds of layouts with shared nodes, too, as long as the template lies elsewhere; filling
the blocks in any other order writes the same. -/

namespace LayoutInheritance

open Outline (ids partsAll heightAll)

namespace Markup

/-- The block of a name that is visited last. -/
def last? (name : String) (ms : List Markup) : Option Markup :=
  latest? name ((visitedAll ms).map fun m => (m.head, m))

end Markup

namespace Outline

variable {α β : Type}

/-- What fills a node of a layout, where `source?` gives it by name: the node has to be the block of its name
that the layout visits last. -/
def filler? (layout : List Outline) (source? : String → Option α) (o : Outline) : Option α :=
  o.head.blockName?.bind fun name =>
    if (last? name layout).map id = some o.id then source? name else none

mutual

/-- What an outline shows once `source?` has put the contents of other blocks into its nodes. -/
def substituted (source? : Outline → Option Markup) : Outline → Markup
  | leaf id h =>
    match source? (leaf id h) with
    | some source => .branch h ((BlockType.ofHead source.head).combine source.content [])
    | none => .leaf h
  | branch id h content =>
    match source? (branch id h content) with
    | some source =>
      .branch h ((BlockType.ofHead source.head).combine source.content (substitutedAll source? content))
    | none => .branch h (substitutedAll source? content)

def substitutedAll (source? : Outline → Option Markup) : List Outline → List Markup
  | [] => []
  | o :: rest => o.substituted source? :: substitutedAll source? rest

end

end Outline

/-- The layout in which each block that the layout visits last under a name has the content that the
template's last block of that name gives it. -/
def substitution (layout : List Outline) (template : List Markup) : List Markup :=
  Outline.substitutedAll (Outline.filler? layout fun name => Markup.last? name template) layout

theorem latest?_map {α β : Type} (f : α → β) (name : String) (es : List (Head Markup × α)) :
    latest? name (es.map fun e => (e.1, f e.2)) = (latest? name es).map f := by
  induction es with
  | nil => rfl
  | cons e es ih =>
    obtain ⟨h, a⟩ := e
    rw [List.map_cons, latest?, ih, latest?, Option.map_or]
    congr 1
    split <;> rfl

namespace Outline

theorem last?_markup (name : String) (os : List Outline) :
    Markup.last? name (markupAll os) = (last? name os).map markup := by
  rw [Markup.last?, last?, visitedAll_markup, List.map_map, ← latest?_map, List.map_map]
  refine congrArg (latest? name) (List.map_congr_left fun o _ => ?_)
  rw [Function.comp_apply, Function.comp_apply, head_markup]

theorem filler?_map {α β : Type} (layout : List Outline) (source? : String → Option α) (f : α → β) (o : Outline) :
    filler? layout (fun name => (source? name).map f) o = (filler? layout source? o).map f := by
  unfold filler?
  cases o.head.blockName? with
  | none => rfl
  | some name =>
    simp only [Option.bind_some]
    split <;> rfl

theorem heightAll_combine_le (type : BlockType) (template layout : List Outline) :
    heightAll (type.combine template layout) ≤ max (heightAll template) (heightAll layout) := by
  refine heightAll_le_iff.2 fun o ho => ?_
  rcases BlockType.mem_combine ho with ho | ho
  · exact (height_le ho).trans (le_max_left ..)
  · exact (height_le ho).trans (le_max_right ..)

theorem substituted_eq (source? : Outline → Option Markup) (o : Outline) :
    o.substituted source? = match source? o with
      | some source =>
        .branch o.head ((BlockType.ofHead source.head).combine source.content (substitutedAll source? o.content))
      | none => .ofContent? o.head (o.content?.map (substitutedAll source?)) := by
  cases o with
  | leaf id h => rw [substituted]; rfl
  | branch id h content => rw [substituted]; rfl

end Outline

namespace Store

variable {s s' : Store} {os ts : List Outline} {blocks overrides : Dictionary String Outline} {o : Outline}

theorem Depicts.combine {type : BlockType} {a b : List Outline} (ha : s.Depicts a) (hb : s.Depicts b) :
    s.Depicts (type.combine a b) := by
  cases type with
  | replace => exact ha
  | prepend => exact ha.append hb
  | append => exact hb.append ha

theorem blocks_of_outline (h : s.outline (os.map Outline.id) = os) :
    s.blocks (os.map Outline.id) = (Outline.table os).map (·.mapValues Outline.id) := by
  rw [Store.blocks_eq, h, Outline.table, ← enterAll_map, List.map_map]
  rfl

/-- The block of the template that fills a node of a layout is that of the node's name, where the node is the
last block of that name. -/
theorem claim?_eq_filler? (ho : s.Depicts os) (hos : s.outline (os.map Outline.id) = os)
    (hb : Outline.table os = .ok blocks) (hov : Outline.table ts = .ok overrides) (hm : o ∈ partsAll os) :
    Filling.claim? (blocks.mapValues Outline.id) (overrides.mapValues Outline.id) o.id =
      (Outline.filler? os (fun name => Outline.last? name ts) o).map Outline.id := by
  have hblocks : s.blocks (os.map Outline.id) = .ok (blocks.mapValues Outline.id) := by
    rw [blocks_of_outline hos, hb]
    rfl
  have get (name : String) : (blocks.mapValues Outline.id).get? name = (Outline.last? name os).map Outline.id := by
    rw [Dictionary.get?_mapValues, Outline.get?_table hb]
  by_cases hlast : ∃ name, o.head.blockName? = some name ∧ (Outline.last? name os).map Outline.id = some o.id
  · obtain ⟨name, hname, hlast⟩ := hlast
    have hmem : (name, o.id) ∈ blocks.mapValues Outline.id :=
      Dictionary.mem_of_get? ((get name).trans hlast)
    rw [Filling.claim?_of_mem (nodup_blocks_nodes hblocks) hmem, Dictionary.get?_mapValues, Outline.get?_table hov,
      Outline.filler?, hname, Option.bind_some, if_pos hlast]
  · have hclaim : Filling.claim? (blocks.mapValues Outline.id) (overrides.mapValues Outline.id) o.id = none := by
      by_contra hne
      obtain ⟨source, hc⟩ := Option.ne_none_iff_exists'.1 hne
      obtain ⟨name, hn, -⟩ := Filling.exists_of_claim? hc
      have hn' := (Dictionary.get?_eq_some_iff (nodup_blocks hblocks)).2 hn
      rw [get] at hn'
      obtain ⟨p, hp, hid⟩ := Option.map_eq_some_iff.1 hn'
      have hpm := Outline.mem_of_last? hp
      have hhead : p.head = o.head := by rw [← (ho p hpm.1).head, ← (ho o hm).head, hid]
      exact hlast ⟨name, hhead ▸ hpm.2, hn'⟩
    rw [hclaim, Outline.filler?]
    cases hname : o.head.blockName? with
    | none => rfl
    | some name =>
      have hne : (Outline.last? name os).map Outline.id ≠ some o.id := fun he => hlast ⟨name, hname, he⟩
      rw [Option.bind_some, if_neg hne]
      rfl

/-- What filling the blocks of a layout does to the store: each block that stands for a name of the template
takes the content of the template's block, and nothing else changes. -/
structure Substitutes (s : Store) (os ts : List Outline) (s' : Store) : Prop where
  size : s'.size = s.size
  head : ∀ x, s'.head x = s.head x
  filled : ∀ o ∈ partsAll os, s'.content? o.id =
    match Outline.filler? os (fun name => Outline.last? name ts) o with
    | some source => some ((BlockType.ofHead source.head).combine (source.content.map Outline.id)
        (o.content.map Outline.id))
    | none => s.content? o.id
  kept : ∀ x ∉ ids os, s'.content? x = s.content? x

theorem substitutes_of_filled (ho : s.Depicts os) (ht : s.Depicts ts) (hos : s.outline (os.map Outline.id) = os)
    (hb : Outline.table os = .ok blocks) (hov : Outline.table ts = .ok overrides) {f : Filling}
    (hf : (s.unfilled overrides).Filled (blocks.mapValues Outline.id) f) : s.Substitutes os ts f.store where
  size := hf.size
  head := hf.head
  filled o hm := by
    have hcontent := hf.content? o.id (ho o hm).lt_size
    rw [claim?_eq_filler? ho hos hb hov hm] at hcontent
    rw [hcontent]
    cases hs : Outline.filler? os (fun name => Outline.last? name ts) o with
    | none => rfl
    | some source =>
      obtain ⟨name, -, hsource⟩ := Option.bind_eq_some_iff.1 hs
      rw [Option.ite_none_right_eq_some] at hsource
      have hshows := ht source (Outline.mem_of_last? hsource.2).1
      simp only [Option.map_some, hshows.head, hshows.content, (ho o hm).content]
  kept x hx := by
    by_cases hlt : x < s.size
    · have hcontent := hf.content? x hlt
      rwa [Filling.claim?_eq_none fun hm => hx (mem_ids_of_mem_blocks hb hm)] at hcontent
    · rw [content?_of_size_le (not_lt.1 hlt), content?_of_size_le (hf.size.trans_le (not_lt.1 hlt))]

/-- The outlines `after` stand where `before` stood, with the contents substituted. -/
structure Substituted (s' : Store) (os ts before after : List Outline) : Prop where
  ids : after.map Outline.id = before.map Outline.id
  markup : Outline.markupAll after =
    Outline.substitutedAll (Outline.filler? os fun name => Markup.last? name (Outline.markupAll ts)) before
  depicts : s'.Depicts after
  region : ∀ x ∈ Outline.ids after, x ∈ Outline.ids before ∨ x ∈ Outline.ids ts
  height : heightAll after ≤ heightAll before + (partsAll ts).length

namespace Substitutes

variable {inner : List Outline}

theorem source_depicts (h : s.Substitutes os ts s') (ht : s.Depicts ts) (hd : ∀ x ∈ ids os, x ∉ ids ts)
    {source : Outline} (hm : source ∈ partsAll ts) : s'.Depicts source.content := by
  refine (ht.content hm).frame h.size.ge (fun x _ => h.head x) fun x hx => h.kept x fun hx' => ?_
  exact hd x hx' (Outline.ids_content_subset hm hx)

theorem heightAll_content_le {source : Outline} (hm : source ∈ partsAll ts) :
    heightAll source.content ≤ (partsAll ts).length := by
  refine (Outline.heightAll_le_length _).trans ?_
  have hsub := (Outline.parts_sublist hm).length_le
  rw [Outline.parts_eq, List.length_cons] at hsub
  omega

/-- A node that is filled. -/
theorem node_filled (h : s.Substitutes os ts s') (ho : s.Depicts os) (ht : s.Depicts ts)
    (hd : ∀ x ∈ ids os, x ∉ ids ts) (hm : o ∈ partsAll os) (hi : Substituted s' os ts o.content inner)
    {source : Outline} (hs : Outline.filler? os (fun name => Outline.last? name ts) o = some source) :
    Substituted s' os ts [o]
      [.branch o.id o.head ((BlockType.ofHead source.head).combine source.content inner)] := by
  have hsource : source ∈ partsAll ts := by
    obtain ⟨name, -, hsource⟩ := Option.bind_eq_some_iff.1 hs
    rw [Option.ite_none_right_eq_some] at hsource
    exact (Outline.mem_of_last? hsource.2).1
  have hfiller : Outline.filler? os (fun name => Markup.last? name (Outline.markupAll ts)) o = some source.markup := by
    simp only [Outline.last?_markup, Outline.filler?_map, hs, Option.map_some]
  constructor
  · rfl
  · rw [Outline.substitutedAll, Outline.substituted_eq, hfiller, Outline.substitutedAll, Outline.markupAll_singleton,
      Outline.markup, Outline.markupAll_combine, hi.markup]
    simp only [Outline.head_markup, Outline.content_markup]
  · refine .node ⟨?_, ?_, ?_⟩ ((h.source_depicts ht hd hsource).combine hi.depicts)
    · exact (ho o hm).lt_size.trans_eq h.size.symm
    · exact (h.head _).trans (ho o hm).head
    · have hfilled := h.filled o hm
      rw [hs] at hfilled
      rw [Outline.id, hfilled, Outline.content?, Option.map_some, BlockType.map_combine, hi.ids]
  · intro x hx
    rw [Outline.mem_ids_singleton] at hx ⊢
    rcases hx with rfl | hx
    · exact .inl (.inl rfl)
    · rcases Outline.mem_ids_combine hx with hx | hx
      · exact .inr (Outline.ids_content_subset hsource hx)
      · exact (hi.region x hx).imp_left .inr
  · have hcontent := heightAll_content_le hsource
    have hinner := hi.height
    have hcombine := Outline.heightAll_combine_le (BlockType.ofHead source.head) source.content inner
    rw [Outline.heightAll_singleton, Outline.heightAll_singleton, Outline.height, o.height_eq]
    omega

/-- A node that keeps its content, in which others may be filled. -/
theorem node_kept (h : s.Substitutes os ts s') (ho : s.Depicts os) (hm : o ∈ partsAll os)
    (hi : Substituted s' os ts o.content inner)
    (hs : Outline.filler? os (fun name => Outline.last? name ts) o = none) :
    ∃ o', Substituted s' os ts [o] [o'] := by
  have hfiller : Outline.filler? os (fun name => Markup.last? name (Outline.markupAll ts)) o = none := by
    simp only [Outline.last?_markup, Outline.filler?_map, hs, Option.map_none]
  have hcontent := h.filled o hm
  rw [hs] at hcontent
  have hlt : o.id < s'.size := (ho o hm).lt_size.trans_eq h.size.symm
  have hhead : s'.head o.id = o.head := (h.head _).trans (ho o hm).head
  have hkept : s'.content? o.id = o.content?.map (·.map Outline.id) := hcontent.trans (ho o hm).content?
  cases o with
  | leaf id hd =>
    refine ⟨.leaf id hd, rfl, ?_, .node ⟨hlt, hhead, hkept⟩ (.nil s'), fun x hx => .inl hx, by omega⟩
    rw [Outline.substitutedAll, Outline.substituted_eq, hfiller]
    rfl
  | branch id hd content =>
    refine ⟨.branch id hd inner, rfl, ?_, .node ⟨hlt, hhead, ?_⟩ hi.depicts, ?_, ?_⟩
    · rw [Outline.substitutedAll, Outline.substituted_eq, hfiller, Outline.markupAll_singleton, Outline.markup,
        hi.markup]
      rfl
    · exact hkept.trans (congrArg some hi.ids.symm)
    · intro x hx
      rw [Outline.mem_ids_singleton] at hx ⊢
      exact hx.elim (.inl ∘ .inl) fun hx => (hi.region x hx).imp_left .inr
    · have hinner := hi.height
      rw [Outline.heightAll_singleton, Outline.heightAll_singleton, Outline.height, Outline.height]
      change heightAll inner ≤ heightAll content + _ at hinner
      omega

theorem exists_node (h : s.Substitutes os ts s') (ho : s.Depicts os) (ht : s.Depicts ts)
    (hd : ∀ x ∈ ids os, x ∉ ids ts) (hm : o ∈ partsAll os) (hi : Substituted s' os ts o.content inner) :
    ∃ o', Substituted s' os ts [o] [o'] := by
  cases hs : Outline.filler? os (fun name => Outline.last? name ts) o with
  | none => exact h.node_kept ho hm hi hs
  | some source => exact ⟨_, h.node_filled ho ht hd hm hi hs⟩

mutual

theorem exists_substituted_parts (h : s.Substitutes os ts s') (ho : s.Depicts os) (ht : s.Depicts ts)
    (hd : ∀ x ∈ ids os, x ∉ ids ts) : ∀ o : Outline, (∀ p ∈ o.parts, p ∈ partsAll os) →
      ∃ o', Substituted s' os ts [o] [o']
  | .leaf id hd', hm => by
    have hi : Substituted s' os ts [] [] := ⟨rfl, rfl, .nil s', fun _ hx => (nomatch hx), Nat.zero_le _⟩
    exact h.exists_node ho ht hd (hm _ (Outline.mem_parts_self _)) hi
  | .branch id hd' content, hm => by
    obtain ⟨inner, hi⟩ := exists_substituted h ho ht hd content fun p hp => hm p (List.mem_cons_of_mem _ hp)
    exact h.exists_node ho ht hd (hm _ (Outline.mem_parts_self _)) hi

/-- What the store depicts after the filling is the substitution. -/
theorem exists_substituted (h : s.Substitutes os ts s') (ho : s.Depicts os) (ht : s.Depicts ts)
    (hd : ∀ x ∈ ids os, x ∉ ids ts) : ∀ before : List Outline, (∀ p ∈ partsAll before, p ∈ partsAll os) →
      ∃ after, Substituted s' os ts before after
  | [], _ => ⟨[], rfl, rfl, .nil s', fun _ hx => (nomatch hx), Nat.zero_le _⟩
  | o :: before, hm => by
    obtain ⟨o', h₁⟩ := exists_substituted_parts h ho ht hd o fun p hp => hm p (List.mem_append_left _ hp)
    obtain ⟨after, h₂⟩ := exists_substituted h ho ht hd before fun p hp => hm p (List.mem_append_right _ hp)
    refine ⟨o' :: after, ?_, ?_, h₁.depicts.cons h₂.depicts, fun x hx => ?_, ?_⟩
    · rw [List.map_cons, List.map_cons, h₂.ids, List.head_eq_of_cons_eq h₁.ids]
    · rw [Outline.markupAll, Outline.substitutedAll, h₂.markup, List.head_eq_of_cons_eq h₁.markup]
    · rw [Outline.mem_ids_cons]
      rcases Outline.mem_ids_cons.1 hx with hx | hx
      · exact (h₁.region x hx).imp_left .inl
      · exact (h₂.region x hx).imp_left .inr
    · have ha := h₁.height
      have hb := h₂.height
      rw [Outline.heightAll_singleton, Outline.heightAll_singleton] at ha
      rw [heightAll, heightAll]
      omega

end

end Substitutes

/-! ### Merging -/

section

variable {layout template : List NodeId} {found claims : BlockTable}

/-- A merge without an issue has found the blocks of both sides, and filling has used all names of the template. -/
theorem blocks_of_merge (hm : (s.merge layout template).issue? = none) :
    ∃ found claims, s.blocks layout = .ok found ∧ s.blocks template = .ok claims ∧
      let f := Filling.fillAll { store := s, unclaimed := claims } found
      (s.merge layout template).store = f.store ∧ f.unclaimed = [] := by
  cases hb : s.blocks layout with
  | error l =>
    rw [merge, hb] at hm
    cases hm
  | ok found =>
    cases hov : s.blocks template with
    | error l =>
      rw [merge, hb, hov] at hm
      cases hm
    | ok claims =>
      rw [merge_of_blocks hb hov] at hm ⊢
      exact ⟨found, claims, rfl, rfl, rfl, List.head?_eq_none_iff.1 (Option.map_eq_none_iff.1 hm)⟩

end

theorem table_of_blocks {table : BlockTable} (hos : s.outline (os.map Outline.id) = os)
    (hb : s.blocks (os.map Outline.id) = .ok table) :
    ∃ blocks, Outline.table os = .ok blocks ∧ table = blocks.mapValues Outline.id := by
  rw [blocks_of_outline hos] at hb
  cases ht : Outline.table os with
  | error l =>
    rw [ht] at hb
    exact nomatch hb
  | ok blocks =>
    rw [ht] at hb
    cases hb
    exact ⟨blocks, rfl, rfl⟩

/-- The filling of a layout from a template that shares no node with it, whatever the order of the blocks. -/
theorem filled_of_perm {order : BlockTable} (hos : s.outline (os.map Outline.id) = os)
    (hd : ∀ x ∈ ids os, x ∉ ids ts) (hb : Outline.table os = .ok blocks) (hov : Outline.table ts = .ok overrides)
    (hp : order.Perm (blocks.mapValues Outline.id)) :
    (s.unfilled overrides).Filled order ((s.unfilled overrides).fillAll order) := by
  have hblocks : s.blocks (os.map Outline.id) = .ok (blocks.mapValues Outline.id) := by
    rw [blocks_of_outline hos, hb]
    rfl
  apply Filling.filled_fillAll
  · exact ((hp.map Prod.fst).nodup_iff).2 (nodup_blocks hblocks)
  · exact ((hp.map Prod.snd).nodup_iff).2 (nodup_blocks_nodes hblocks)
  · intro e he hm
    have hin := mem_ids_of_mem_blocks hb ((hp.map Prod.snd).subset hm)
    exact hd _ hin (mem_ids_of_mem_blocks hov (List.mem_map_of_mem he))

end Store

namespace Filling

variable {f g g' : Filling} {blocks order : BlockTable}

theorem claim?_perm (hp : order.Perm blocks) (hi : (blocks.map Prod.snd).Nodup) (overrides : BlockTable)
    (x : NodeId) : claim? order overrides x = claim? blocks overrides x := by
  by_cases hx : x ∈ blocks.map Prod.snd
  · obtain ⟨⟨name, x⟩, hm, rfl⟩ := List.mem_map.1 hx
    rw [claim?_of_mem hi hm, claim?_of_mem ((hp.map Prod.snd).nodup_iff.2 hi) (hp.mem_iff.2 hm)]
  · rw [claim?_eq_none hx, claim?_eq_none fun hm => hx ((hp.map Prod.snd).subset hm)]

/-- Another order of the blocks fills the same. -/
theorem Filled.perm (h : f.Filled blocks g) (h' : f.Filled order g') (hp : order.Perm blocks)
    (hi : (blocks.map Prod.snd).Nodup) : g'.store = g.store ∧ g'.unclaimed = g.unclaimed := by
  constructor
  · apply Store.ext_cells (h'.size.trans h.size.symm) fun x => (h'.head x).trans (h.head x).symm
    intro x
    by_cases hx : x < f.store.size
    · rw [h.content? x hx, h'.content? x hx, claim?_perm hp hi]
    · rw [Store.content?_of_size_le (h'.size.trans_le (not_lt.1 hx)),
        Store.content?_of_size_le (h.size.trans_le (not_lt.1 hx))]
  · rw [h.unclaimed, h'.unclaimed]
    refine List.filter_congr fun e _ => ?_
    have hmem : e.1 ∈ Dictionary.keys order ↔ e.1 ∈ Dictionary.keys blocks := (hp.map Prod.fst).mem_iff
    rw [Bool.eq_iff_iff, Bool.not_eq_true', Bool.not_eq_true', Dictionary.has_eq_false_iff,
      Dictionary.has_eq_false_iff, hmem]

end Filling

namespace Store

variable {s : Store} {os ts : List Outline}

/-- A merge that succeeds is one substitution in the layout: each block that the layout visits last under a name
of the template takes the content of the block that the template visits last under it, combined with what its
own content has become, and all else stays. No head changes and no content but those, nothing outside of the
layout changes, and the blocks may be filled in any order. -/
theorem merge_substitutes (ho : s.Holds os) (ht : s.Holds ts) (hd : ∀ x ∈ ids os, x ∉ ids ts)
    (hm : (s.merge (os.map Outline.id) (ts.map Outline.id)).issue? = none) :
    let m := s.merge (os.map Outline.id) (ts.map Outline.id)
    m.store.document (os.map Outline.id) = substitution os (Outline.markupAll ts) ∧
    (m.store.size = s.size ∧ ∀ x, m.store.head x = s.head x) ∧
    (∀ o ∈ partsAll os, m.store.content? o.id =
      match Outline.filler? os (fun name => Outline.last? name ts) o with
      | some source => some ((BlockType.ofHead source.head).combine (source.content.map Outline.id)
          (o.content.map Outline.id))
      | none => s.content? o.id) ∧
    (∀ x ∉ ids os, m.store.content? x = s.content? x) ∧
    ∃ blocks overrides, s.blocks (os.map Outline.id) = .ok blocks ∧ s.blocks (ts.map Outline.id) = .ok overrides ∧
      ∀ order : BlockTable, order.Perm blocks →
        let f := Filling.fillAll { store := s, unclaimed := overrides } order
        f.store = m.store ∧ f.unclaimed = [] := by
  intro m
  obtain ⟨_, _, hb, hov, hstore, hnone⟩ := blocks_of_merge hm
  obtain ⟨blocks, htable, rfl⟩ := table_of_blocks ho.outline_eq hb
  obtain ⟨overrides, htable', rfl⟩ := table_of_blocks ht.outline_eq hov
  have hf := filled_of_perm ho.outline_eq hd htable htable' (List.Perm.refl _)
  have hsub : s.Substitutes os ts m.store :=
    hstore ▸ substitutes_of_filled ho.depicts ht.depicts ho.outline_eq htable htable' hf
  refine ⟨?_, ⟨hsub.size, hsub.head⟩, hsub.filled, hsub.kept, _, _, hb, hov, fun order hp => ?_⟩
  · obtain ⟨after, ha⟩ := hsub.exists_substituted ho.depicts ht.depicts hd os fun _ hp => hp
    have hheight : heightAll after ≤ m.store.size := by
      have hlength := (ho.append ht hd).length_le
      rw [Outline.partsAll_append, List.length_append] at hlength
      have hos := Outline.heightAll_le_length os
      have hafter := ha.height
      rw [hsub.size]
      omega
    rw [document, ← ha.ids, ha.depicts.outline_eq_of_height hheight, ha.markup, substitution]
  · have hf' := filled_of_perm ho.outline_eq hd htable htable' hp
    have hperm := hf.perm hf' hp (nodup_blocks_nodes hb)
    exact ⟨hperm.1.trans hstore.symm, hperm.2.trans hnone⟩

/-- Two documents stored one after the other share no node. -/
theorem exists_holds_both (s : Store) (layout template : List Markup) :
    ∃ os ts, os.map Outline.id = (s.addAll layout).2 ∧ ts.map Outline.id = ((s.addAll layout).1.addAll template).2 ∧
      Outline.markupAll ts = template ∧ ((s.addAll layout).1.addAll template).1.Holds os ∧
      ((s.addAll layout).1.addAll template).1.Holds ts ∧ ∀ x ∈ ids os, x ∉ ids ts := by
  obtain ⟨os, -, hid, hs⟩ := stored_addAll s layout
  obtain ⟨ts, htm, htid, hts⟩ := stored_addAll (s.addAll layout).1 template
  refine ⟨os, ts, hid, htid, htm, ?_, hts.holds, fun x hx hx' => ?_⟩
  · exact hs.holds.frame hts.size_le (fun x hx => hts.head x (hs.holds.lt_size hx))
      fun x hx => hts.content? x (hs.holds.lt_size hx)
  · exact absurd (hts.fresh x hx') (not_le.2 (hs.holds.lt_size hx))

/-- The last block `b` of the layout lies in its block `a`, and both are filled; the block `b` before them is left
as it is. -/
theorem merge_substitutes_nested :
    let block (name type : String) (content : List Markup) :=
      Markup.tag blockTag [("name", name), ("type", type)] (some content)
    let document := [block "b" "prepend" [.text "x"], block "a" "append" [.text "y"]]
    let base := [block "b" "" [.text "0"], block "a" "" [.text "1", block "b" "" [.text "2"]]]
    let layout := ({} : Store).addAll base
    let template := layout.1.addAll document
    let m := template.1.merge layout.2 template.2
    Markup.renderAll (m.store.document layout.2) =
      "<block name=\"b\" type=\"\">0</block><block name=\"a\" type=\"\">1<block name=\"b\" type=\"\">x2</block>y</block>" ∧
    ∃ os, os.map Outline.id = layout.2 ∧ m.store.document layout.2 = substitution os document := by
  intro block document base layout template m
  obtain ⟨os, ts, hos, hts, htm, ho, ht, hd⟩ := exists_holds_both {} base document
  have hm : m.issue? = none := by decide +kernel
  change (template.1.merge layout.2 template.2).issue? = none at hm
  change os.map Outline.id = layout.2 at hos
  change ts.map Outline.id = template.2 at hts
  rw [← hos, ← hts] at hm
  have h := merge_substitutes ho ht hd hm
  rw [htm, hos, hts] at h
  exact ⟨by decide +kernel, os, hos, h.1⟩

end Store

end LayoutInheritance
