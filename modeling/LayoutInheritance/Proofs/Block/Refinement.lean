import LayoutInheritance.Proofs.Block.Copying

/-! Filling in place against filling copies. In a store that holds a layout and a template apart from each
other, the layout's blocks are filled at once. When the template's blocks lie apart, too, the store then
holds the filled copy of the layout: its old nodes stand where they stood, and each node of the template
that was taken over stands in one place. -/

namespace LayoutInheritance

open Outline (ids partsAll Stands)

theorem BlockType.map_combine {α β : Type} (f : α → β) (type : BlockType) (template layout : List α) :
    (type.combine template layout).map f = type.combine (template.map f) (layout.map f) := by
  cases type <;> simp [combine]

namespace Outline

theorem markupAll_combine (type : BlockType) (template layout : List Outline) :
    markupAll (type.combine template layout) = type.combine (markupAll template) (markupAll layout) := by
  simp only [markupAll_eq_map, BlockType.map_combine]

theorem mem_ids_combine {type : BlockType} {template layout : List Outline} {x : NodeId}
    (h : x ∈ ids (type.combine template layout)) : x ∈ ids template ∨ x ∈ ids layout := by
  cases type with
  | replace => exact .inl h
  | prepend =>
    rw [BlockType.combine, ids_append] at h
    exact List.mem_append.1 h
  | append =>
    rw [BlockType.combine, ids_append] at h
    exact (List.mem_append.1 h).symm

theorem mem_blockNames_singleton {name : String} {o : Outline} :
    name ∈ blockNames [o] ↔ o.head.isTag ∧ name ∈ blockNames o.content ∨ o.head.blockName? = some name := by
  rw [blockNames, visitedAll, visitedAll, List.append_nil, visited_eq, List.filterMap_append, List.mem_append]
  refine or_congr ?_ ?_
  · split
    · next h => simp [h, blockNames]
    · next h => simp [h]
  · rw [Head.blockName?]
    split
    · next h => simp [Head.blockName?, h]
    · simp

end Outline

namespace Store

variable {s s' : Store} {root : List Outline} {blocks overrides : Dictionary String Outline}

theorem Holds.combine {type : BlockType} {a b : List Outline} (ha : s.Holds a) (hb : s.Holds b)
    (hd : ∀ x ∈ ids a, x ∉ ids b) : s.Holds (type.combine a b) := by
  cases type with
  | replace => exact ha
  | prepend => exact ha.append hb hd
  | append => exact hb.append ha fun x hx hx' => hd x hx' hx

/-- The store `s'` comes of `s` by filling all blocks of a layout from the blocks of a template. -/
structure Fills (s s' : Store) (root : List Outline)
    (blocks overrides : Dictionary String Outline) : Prop where
  size : s'.size = s.size
  head : ∀ x, s'.head x = s.head x
  keeps : ∀ o ∈ partsAll root, (∀ name, blocks.get? name = some o → overrides.get? name = none) →
    s'.content? o.id = s.content? o.id
  fills : ∀ o ∈ partsAll root, ∀ name source, blocks.get? name = some o → overrides.get? name = some source →
    s'.content? o.id = some ((BlockType.ofHead source.head).combine (source.content.map Outline.id)
      (o.content.map Outline.id))
  sources : ∀ name source, overrides.get? name = some source →
    s'.Holds source.content ∧ ∀ x ∈ ids source.content, x ∉ ids root
  apart : ∀ name name' source source', name ≠ name' → blocks.get? name ≠ none → blocks.get? name' ≠ none →
    overrides.get? name = some source → overrides.get? name' = some source' →
    (ids source.content).Disjoint (ids source'.content)

/-- A node has come from the template, in the filling of some of the blocks `os`. -/
def Gained (overrides : Dictionary String Outline) (later : List String) (os : List Outline) (x : NodeId) :
    Prop :=
  ∃ name ∈ Outline.blockNames os, name ∉ later ∧
    ∃ source, overrides.get? name = some source ∧ x ∈ ids source.content

namespace Fills

variable {later : List String} {o : Outline} {inner : List Outline}

theorem stands_inner (ho : s.Holds [o]) (hst : Stands blocks later [o]) (ht : o.content ≠ [] → o.head.isTag) :
    Stands blocks (o.head.blockName?.toList ++ later) o.content := by
  by_cases hc : o.content = []
  · rw [hc]
    exact ⟨hst.named, fun _ _ _ hp => absurd hp List.not_mem_nil, fun _ _ hb => absurd hb List.not_mem_nil⟩
  · exact hst.inner (ht hc) fun hm => ho.root_not_mem (List.mem_map_of_mem hm)

theorem gained_outer (ht : o.content ≠ [] → o.head.isTag) {x : NodeId}
    (hx : Gained overrides (o.head.blockName?.toList ++ later) o.content x) :
    Gained overrides later [o] x := by
  obtain ⟨name, hb, hn, hsrc⟩ := hx
  have hc : o.content ≠ [] := fun hc => by
    rw [hc] at hb
    exact nomatch hb
  exact ⟨name, Outline.mem_blockNames_singleton.2 (.inl ⟨ht hc, hb⟩),
    fun hl => hn (List.mem_append_right _ hl), hsrc⟩

/-- The outlines `os'` stand where `os` stood, with the blocks filled. -/
structure Refills (s' : Store) (overrides : Dictionary String Outline) (later : List String)
    (os os' : List Outline) : Prop where
  ids : os'.map Outline.id = os.map Outline.id
  markup : Outline.markupAll os' =
    Markup.fillAll (overrides.mapValues Outline.markup) later (Outline.markupAll os)
  holds : s'.Holds os'
  gained : ∀ x ∈ Outline.ids os', x ∈ Outline.ids os ∨ Gained overrides later os x

theorem bind_mapValues (name? : Option String) :
    name?.bind (overrides.mapValues Outline.markup).get? = (name?.bind overrides.get?).map Outline.markup := by
  cases name? with
  | none => rfl
  | some name => exact Dictionary.get?_mapValues ..

/-- The filled copy of a node, once the copy of its content is known. -/
theorem fill_markup (ht : o.content ≠ [] → o.head.isTag)
    (hi : Outline.markupAll inner = Markup.fillAll (overrides.mapValues Outline.markup)
      (o.head.blockName?.toList ++ later) (Outline.markupAll o.content)) :
    o.markup.fill (overrides.mapValues Outline.markup) later =
      match (o.head.stands? later).bind overrides.get? with
      | some source => .branch o.head ((BlockType.ofHead source.head).combine
          (Outline.markupAll source.content) (Outline.markupAll inner))
      | none => .ofContent? o.head (o.content?.map fun _ => Outline.markupAll inner) := by
  have source_eq (source : Outline) : source.markup.head = source.head ∧
      source.markup.content = Outline.markupAll source.content := ⟨source.head_markup, source.content_markup⟩
  cases o with
  | leaf id h =>
    have hn : Outline.markupAll inner = [] := by rw [hi]; rfl
    rw [Outline.markup, Markup.fill, bind_mapValues, hn]
    cases hb : (h.stands? later).bind overrides.get? with
    | none => simp [Outline.head, hb, Outline.content?, Markup.ofContent?]
    | some source => simp [Outline.head, hb, source_eq]
  | branch id h content =>
    have hinner : (if h.isTag then Markup.fillAll (overrides.mapValues Outline.markup)
        (h.blockName?.toList ++ later) (Outline.markupAll content) else Outline.markupAll content) =
        Outline.markupAll inner := by
      split
      · exact hi.symm
      · next hn =>
        have hc : content = [] := by
          by_contra hc
          exact hn (ht hc)
        rw [hi]
        subst hc
        rfl
    rw [Outline.markup, Markup.fill, bind_mapValues]
    simp only [hinner]
    cases hb : (h.stands? later).bind overrides.get? with
    | none => simp [Outline.head, hb, Outline.content?, Markup.ofContent?]
    | some source => simp [Outline.head, hb, source_eq]

theorem markup_singleton {o' : Outline}
    (h : o'.markup = o.markup.fill (overrides.mapValues Outline.markup) later) :
    Outline.markupAll [o'] =
      Markup.fillAll (overrides.mapValues Outline.markup) later (Outline.markupAll [o]) :=
  congrArg (fun m => [m]) h

/-- A block that takes the content of its override. -/
theorem refills_filled (hf : s.Fills s' root blocks overrides) (ho : o ∈ partsAll root) (hold : s.Holds [o])
    (ht : o.content ≠ [] → o.head.isTag) (hst : Stands blocks later [o])
    (hi : Refills s' overrides (o.head.blockName?.toList ++ later) o.content inner) {name : String}
    {source : Outline}
    (hn : o.head.stands? later = some name) (hsrc : overrides.get? name = some source) :
    Refills s' overrides later [o]
      [.branch o.id o.head ((BlockType.ofHead source.head).combine source.content inner)] := by
  have hbl : blocks.get? name = some o := hst.stands?_iff.1 hn
  have hname : o.head.blockName? = some name := hst.named name o hbl
  obtain ⟨hheld, hout⟩ := hf.sources name source hsrc
  have sub : ∀ x ∈ ids o.content, x ∈ ids root := Outline.ids_content_subset ho
  have hinner := stands_inner hold hst ht
  have apart : ∀ x ∈ ids source.content, x ∉ ids inner := by
    intro x hx hx'
    rcases hi.gained x hx' with hx' | ⟨name', hb', hn', source', hsrc', hx'⟩
    · exact hout x hx (sub x hx')
    · have hne : name ≠ name' := fun he =>
        hn' (List.mem_append_left _ (Option.mem_toList.2 (he ▸ hname)))
      have hbl' : blocks.get? name' ≠ none := by
        rw [hinner.last name' hn' hb']
        exact Outline.last?_ne_none.2 hb'
      exact hf.apart name name' source source' hne (by simp [hbl]) hbl' hsrc hsrc' hx hx'
  have hid : o.id ∉ ids ((BlockType.ofHead source.head).combine source.content inner) := by
    have hroot : o.id ∈ ids root := List.mem_map_of_mem ho
    intro hm
    rcases Outline.mem_ids_combine hm with hm | hm
    · exact hout _ hm hroot
    · rcases hi.gained _ hm with hm | ⟨name', _, _, source', hsrc', hm⟩
      · exact hold.root_not_mem hm
      · exact (hf.sources name' source' hsrc').2 _ hm hroot
  constructor
  · rfl
  · apply markup_singleton
    rw [fill_markup ht hi.markup, hn, Option.bind_some, hsrc, Outline.markup, Outline.markupAll_combine]
  · refine .node ⟨?_, ?_, ?_⟩ (hheld.combine hi.holds apart) hid
    · rw [hf.size]
      exact hold.root.lt_size
    · exact (hf.head _).trans hold.root.head
    · rw [Outline.id, hf.fills o ho name source hbl hsrc, ← hi.ids, ← BlockType.map_combine]
      rfl
  · intro x hx
    rcases Outline.mem_ids_singleton.1 hx with rfl | hx
    · exact .inl (Outline.mem_ids_of_mem (List.mem_singleton_self o) :)
    · rcases Outline.mem_ids_combine hx with hx | hx
      · refine .inr ⟨name, Outline.mem_blockNames_singleton.2 (.inr hname), fun hl => ?_, source, hsrc, hx⟩
        exact hst.taken name hl o (Outline.mem_partsAll_of_mem (List.mem_singleton_self o)) hbl
      · rcases hi.gained x hx with hx | hx
        · exact .inl (Outline.mem_ids_singleton.2 (.inr hx))
        · exact .inr (gained_outer ht hx)

/-- A node that is not filled itself. -/
theorem refills_kept (hf : s.Fills s' root blocks overrides) (ho : o ∈ partsAll root) (hold : s.Holds [o])
    (ht : o.content ≠ [] → o.head.isTag) (hst : Stands blocks later [o])
    (hi : Refills s' overrides (o.head.blockName?.toList ++ later) o.content inner)
    (hb : (o.head.stands? later).bind overrides.get? = none) : ∃ o', Refills s' overrides later [o] [o'] := by
  have hroot : o.id ∈ ids root := List.mem_map_of_mem ho
  have hid : o.id ∉ ids inner := by
    intro hm
    rcases hi.gained _ hm with hm | ⟨name', _, _, source', hsrc', hm⟩
    · exact hold.root_not_mem hm
    · exact (hf.sources name' source' hsrc').2 _ hm hroot
  have hkeep : s'.content? o.id = s.content? o.id := by
    refine hf.keeps o ho fun name hn => ?_
    rw [hst.stands?_iff.2 hn] at hb
    exact hb
  have hmarkup := fill_markup ht hi.markup
  rw [hb] at hmarkup
  have gained : ∀ x, x = o.id ∨ x ∈ ids inner → x ∈ ids [o] ∨ Gained overrides later [o] x := by
    intro x hx
    rw [Outline.mem_ids_singleton]
    rcases hx with rfl | hx
    · exact .inl (.inl rfl)
    · exact (hi.gained x hx).imp .inr (gained_outer ht)
  have hlt : o.id < s'.size := by
    rw [hf.size]
    exact hold.root.lt_size
  have hhead : s'.head o.id = o.head := (hf.head _).trans hold.root.head
  cases o with
  | leaf id h =>
    refine ⟨.leaf id h, rfl, ?_, ?_, ?_⟩
    · exact markup_singleton hmarkup.symm
    · exact .node ⟨hlt, hhead, hkeep.trans hold.root.content?⟩ (.nil _) (List.not_mem_nil)
    · intro x hx
      exact .inl hx
  | branch id h content =>
    refine ⟨.branch id h inner, rfl, ?_, ?_, ?_⟩
    · exact markup_singleton hmarkup.symm
    · refine .node ⟨hlt, hhead, ?_⟩ hi.holds hid
      change s'.content? id = some (inner.map Outline.id)
      rw [hi.ids]
      exact hkeep.trans hold.root.content?
    · intro x hx
      exact gained x (Outline.mem_ids_singleton.1 hx)

theorem exists_refills_node (hf : s.Fills s' root blocks overrides) (hs : s.Sound) (ho : o ∈ partsAll root)
    (hold : s.Holds [o]) (hst : Stands blocks later [o])
    (hi : ∀ later, Stands blocks later o.content → ∃ inner, Refills s' overrides later o.content inner) :
    ∃ o', Refills s' overrides later [o] [o'] := by
  have ht : o.content ≠ [] → o.head.isTag := by
    intro hc
    rw [← hold.root.head]
    apply hs.tagged
    rw [hold.root.content]
    simpa using hc
  obtain ⟨inner, hi⟩ := hi _ (stands_inner hold hst ht)
  cases hb : (o.head.stands? later).bind overrides.get? with
  | none => exact refills_kept hf ho hold ht hst hi hb
  | some source =>
    obtain ⟨name, hn, hsrc⟩ := Option.bind_eq_some_iff.1 hb
    exact ⟨_, refills_filled hf ho hold ht hst hi hn hsrc⟩

theorem refills_cons {os os' : List Outline} {o' : Outline} (hf : s.Fills s' root blocks overrides)
    (ho : ∀ p ∈ partsAll (o :: os), p ∈ partsAll root) (hold : s.Holds (o :: os))
    (hst : Stands blocks (Outline.blockNames os ++ later) [o]) (hst' : Stands blocks later os)
    (h₁ : Refills s' overrides (Outline.blockNames os ++ later) [o] [o'])
    (h₂ : Refills s' overrides later os os') :
    Refills s' overrides later (o :: os) (o' :: os') := by
  have sub : ∀ x ∈ ids (o :: os), x ∈ ids root := List.map_subset _ ho
  have apart : ∀ x ∈ ids [o'], x ∉ ids os' := by
    intro x hx hx'
    rcases h₁.gained x hx with hx | ⟨name, hb, hn, source, hsrc, hx⟩
    · rcases h₂.gained x hx' with hx' | ⟨name', -, -, source', hsrc', hx'⟩
      · exact hold.apart x hx hx'
      · exact (hf.sources name' source' hsrc').2 x hx' (sub x (Outline.mem_ids_cons.2 (.inl hx)))
    · rcases h₂.gained x hx' with hx' | ⟨name', hb', hn', source', hsrc', hx'⟩
      · exact (hf.sources name source hsrc).2 x hx (sub x (Outline.mem_ids_cons.2 (.inr hx')))
      · have hne : name ≠ name' := fun he => hn (List.mem_append_left _ (he ▸ hb'))
        refine hf.apart name name' source source' hne ?_ ?_ hsrc hsrc' hx hx'
        · rw [hst.last name hn hb]
          exact Outline.last?_ne_none.2 hb
        · rw [hst'.last name' hn' hb']
          exact Outline.last?_ne_none.2 hb'
  constructor
  · rw [List.map_cons, List.map_cons, h₂.ids, List.head_eq_of_cons_eq h₁.ids]
  · have hm : o'.markup = o.markup.fill (overrides.mapValues Outline.markup) (Outline.blockNames os ++ later) :=
      List.head_eq_of_cons_eq h₁.markup
    rw [Outline.markupAll, h₂.markup, hm, Outline.markupAll, Markup.fillAll, Outline.blockNames_markup]
  · exact Holds.append (a := [o']) h₁.holds h₂.holds apart
  · intro x hx
    rw [Outline.mem_ids_cons]
    rcases Outline.mem_ids_cons.1 hx with hx | hx
    · rcases h₁.gained x hx with hx | ⟨name, hb, hn, hsrc⟩
      · exact .inl (.inl hx)
      · refine .inr ⟨name, ?_, fun hl => hn (List.mem_append_right _ hl), hsrc⟩
        rw [Outline.blockNames_cons]
        exact List.mem_append_left _ hb
    · rcases h₂.gained x hx with hx | ⟨name, hb, hn, hsrc⟩
      · exact .inl (.inr hx)
      · refine .inr ⟨name, ?_, hn, hsrc⟩
        rw [Outline.blockNames_cons]
        exact List.mem_append_right _ hb

mutual

theorem exists_refills_parts (hf : s.Fills s' root blocks overrides) (hs : s.Sound) : ∀ (o : Outline)
    (later : List String), (∀ p ∈ o.parts, p ∈ partsAll root) → s.Holds [o] → Stands blocks later [o] →
    ∃ o', Refills s' overrides later [o] [o']
  | .leaf id h, later, ho, hold, hst => by
    refine exists_refills_node hf hs (ho _ (Outline.mem_parts_self _)) hold hst fun later _ => ?_
    exact ⟨[], rfl, rfl, .nil _, fun x hx => nomatch hx⟩
  | .branch id h content, later, ho, hold, hst => by
    refine exists_refills_node hf hs (ho _ (Outline.mem_parts_self _)) hold hst fun later hst => ?_
    exact exists_refills hf hs content later (fun p hp => ho p (List.mem_cons_of_mem _ hp)) hold.content hst

/-- The store holds the filled copy of what it held before. -/
theorem exists_refills (hf : s.Fills s' root blocks overrides) (hs : s.Sound) : ∀ (os : List Outline)
    (later : List String), (∀ o ∈ partsAll os, o ∈ partsAll root) → s.Holds os → Stands blocks later os →
    ∃ os', Refills s' overrides later os os'
  | [], _, _, _, _ => ⟨[], rfl, rfl, .nil _, fun x hx => nomatch hx⟩
  | o :: os, later, ho, hold, hst => by
    have apart : ∀ p ∈ partsAll os, p ∉ o.parts := by
      intro p hp hp'
      refine hold.apart p.id ?_ (List.mem_map_of_mem hp)
      rw [ids, partsAll, partsAll, List.append_nil]
      exact List.mem_map_of_mem hp'
    obtain ⟨o', h₁⟩ := exists_refills_parts hf hs o _ (fun p hp => ho p (List.mem_append_left _ hp)) hold.first
      (hst.first apart)
    obtain ⟨os', h₂⟩ := exists_refills hf hs os later (fun p hp => ho p (List.mem_append_right _ hp)) hold.rest
      hst.rest
    exact ⟨o' :: os', refills_cons hf ho hold (hst.first apart) hst.rest h₁ h₂⟩

end

end Fills

/-! ### Merging -/

theorem Holds.blocks_eq {os : List Outline} (h : s.Holds os) :
    s.blocks (os.map Outline.id) = (Outline.table os).map (·.mapValues Outline.id) := by
  rw [Store.blocks_eq, h.outline_eq, Outline.table, ← enterAll_map, List.map_map]
  rfl

variable {os ts : List Outline}

section

variable (ho : s.Holds os) (hb : Outline.table os = .ok blocks)
include ho hb

theorem mem_blocks_iff {o : Outline} (hm : o ∈ partsAll os) {name : String} :
    (name, o.id) ∈ blocks.mapValues Outline.id ↔ blocks.get? name = some o := by
  rw [Dictionary.get?_eq_some_iff (Outline.nodup_table hb), Dictionary.mapValues, List.mem_map]
  constructor
  · rintro ⟨e, he, heq⟩
    obtain ⟨rfl, hid⟩ := Prod.mk.inj heq
    rw [← ho.eq_of_id_eq (Outline.mem_table hb he) hm hid]
    exact he
  · intro he
    exact ⟨_, he, rfl⟩

omit ho in
theorem mem_ids_of_mem_blocks {x : NodeId} (hx : x ∈ (blocks.mapValues Outline.id).map Prod.snd) :
    x ∈ ids os := by
  obtain ⟨e, he, rfl⟩ := List.mem_map.1 hx
  obtain ⟨e', he', rfl⟩ := List.mem_map.1 he
  exact List.mem_map_of_mem (Outline.mem_table hb he')

theorem nodup_blocks_ids : ((blocks.mapValues Outline.id).map Prod.snd).Nodup := by
  have hbl : s.blocks (os.map Outline.id) = .ok (blocks.mapValues Outline.id) := by
    rw [ho.blocks_eq, hb]
    rfl
  exact nodup_blocks_nodes hbl

end

/-- No block has been filled, and all overrides are unclaimed. -/
abbrev unfilled (s : Store) (overrides : Dictionary String Outline) : Filling :=
  { store := s, unclaimed := overrides.mapValues Outline.id }

/-- Filling the blocks of a layout as one change of what the store holds. -/
theorem fills_of_filled (ho : s.Holds os) (ht : s.Holds ts) (hd : ∀ x ∈ ids os, x ∉ ids ts)
    (hb : Outline.table os = .ok blocks) (hov : Outline.table ts = .ok overrides)
    (ha : Markup.MatchApart (Outline.markupAll os) (Outline.markupAll ts)) {f : Filling}
    (hf : (s.unfilled overrides).Filled (blocks.mapValues Outline.id) f) :
    s.Fills f.store os blocks overrides := by
  have source_mem : ∀ name source, overrides.get? name = some source → source ∈ partsAll ts := by
    intro name source hs
    rw [Outline.get?_table hov] at hs
    exact (Outline.mem_of_last? hs).1
  constructor
  · exact hf.size
  · exact hf.head
  · intro o hm hkeep
    have hc : Filling.claim? (blocks.mapValues Outline.id) (overrides.mapValues Outline.id) o.id = none := by
      by_contra hne
      obtain ⟨source, hc⟩ := Option.ne_none_iff_exists'.1 hne
      obtain ⟨name, hn, hg⟩ := Filling.exists_of_claim? hc
      rw [Dictionary.get?_mapValues, hkeep name ((mem_blocks_iff ho hb hm).1 hn)] at hg
      exact nomatch hg
    have := hf.content? o.id (ho.shows o hm).lt_size
    rwa [hc] at this
  · intro o hm name source hg hs
    have hc :
        Filling.claim? (blocks.mapValues Outline.id) (overrides.mapValues Outline.id) o.id = some source.id := by
      rw [Filling.claim?_of_mem (nodup_blocks_ids ho hb) ((mem_blocks_iff ho hb hm).2 hg),
        Dictionary.get?_mapValues, hs]
      rfl
    have hcontent := hf.content? o.id (ho.shows o hm).lt_size
    have hsource := ht.shows source (source_mem name source hs)
    rw [hc] at hcontent
    simp only [hsource.head, hsource.content, (ho.shows o hm).content] at hcontent
    exact hcontent
  · intro name source hs
    have hm := source_mem name source hs
    have sub : ∀ x ∈ ids source.content, x ∈ ids ts := Outline.ids_content_subset hm
    refine ⟨?_, fun x hx hx' => hd x hx' (sub x hx)⟩
    refine (ht.of_part hm).content.frame hf.size.ge (fun x _ => hf.head x) fun x hx => ?_
    have hc : Filling.claim? (blocks.mapValues Outline.id) (overrides.mapValues Outline.id) x = none :=
      Filling.claim?_eq_none fun hx' => hd x (mem_ids_of_mem_blocks hb hx') (sub x hx)
    have := hf.content? x (ht.lt_size (sub x hx))
    rwa [hc] at this
  · intro name name' source source' hne hg hg' hs hs'
    rw [Outline.get?_table hov] at hs hs'
    rw [Outline.get?_table hb, Outline.last?_ne_none] at hg hg'
    rw [Markup.MatchApart, Outline.blockNames_markup] at ha
    exact Outline.disjoint_of_apartAll hg hg' hne ht.nodup ha List.not_mem_nil List.not_mem_nil hs hs'

/-- A merge in a store that holds a layout and a template apart from each other, against the merge of the
documents that it holds. -/
structure Merges (s : Store) (os ts : List Outline) (m : Merge) : Prop where
  filled : m.filled = (Markup.merge (Outline.markupAll os) (Outline.markupAll ts)).1
  issue : ∀ issue, (Markup.merge (Outline.markupAll os) (Outline.markupAll ts)).2 = .error issue →
    m.issue? = some issue
  result : ∀ found, (Markup.merge (Outline.markupAll os) (Outline.markupAll ts)).2 = .ok found →
    m.issue? = none ∧ (Markup.MatchApart (Outline.markupAll os) (Outline.markupAll ts) →
      ∃ os' : List Outline, os'.map Outline.id = os.map Outline.id ∧ Outline.markupAll os' = found ∧
        m.store.Holds os' ∧ ∀ x ∈ ids os', x ∈ ids os ∨ x ∈ ids ts)

theorem filled_of_tables (ht : s.Holds ts) (hov : Outline.table ts = .ok overrides) :
    ((blocks.mapValues Outline.id).filterMap fun b =>
      ((overrides.mapValues Outline.id).get? b.1).map fun source => (b.1, BlockType.ofHead (s.head source))) =
    (blocks.mapValues Outline.markup).filterMap fun b =>
      ((overrides.mapValues Outline.markup).get? b.1).map fun source => (b.1, BlockType.ofHead source.head) := by
  rw [Dictionary.filterMap_mapValues, Dictionary.filterMap_mapValues]
  apply List.filterMap_congr
  intro b _
  simp only [Dictionary.get?_mapValues]
  cases hs : overrides.get? b.1 with
  | none => rfl
  | some source =>
    have hm : source ∈ partsAll ts := Outline.mem_table hov (Dictionary.mem_of_get? hs)
    simp only [Option.map_some, (ht.shows source hm).head, source.head_markup]

theorem merge_of_tables (ho : s.Holds os) (ht : s.Holds ts) (hb : Outline.table os = .ok blocks)
    (hov : Outline.table ts = .ok overrides) :
    s.merge (os.map Outline.id) (ts.map Outline.id) =
      let f := (s.unfilled overrides).fillAll (blocks.mapValues Outline.id)
      { store := f.store
        filled := f.filled
        issue? := f.unclaimed.head?.map fun left =>
          .unmatchedBlock left.1 (some (f.store.head left.2).location) } := by
  rw [merge, ho.blocks_eq, hb, ht.blocks_eq, hov]
  rfl

theorem filled_of_held (ho : s.Holds os) (hd : ∀ x ∈ ids os, x ∉ ids ts)
    (hb : Outline.table os = .ok blocks) (hov : Outline.table ts = .ok overrides) :
    (s.unfilled overrides).Filled (blocks.mapValues Outline.id)
      ((s.unfilled overrides).fillAll (blocks.mapValues Outline.id)) := by
  apply Filling.filled_fillAll
  · rw [Dictionary.keys_mapValues]
    exact Outline.nodup_table hb
  · exact nodup_blocks_ids ho hb
  · intro e he hm
    exact hd _ (mem_ids_of_mem_blocks hb hm) (mem_ids_of_mem_blocks hov (List.mem_map_of_mem he))

theorem copy_of_tables (hb : Outline.table os = .ok blocks) (hov : Outline.table ts = .ok overrides) :
    Markup.merge (Outline.markupAll os) (Outline.markupAll ts) =
      ((blocks.mapValues Outline.markup).filterMap fun b =>
          ((overrides.mapValues Outline.markup).get? b.1).map fun source => (b.1, BlockType.ofHead source.head),
        match overrides.find? fun e => !blocks.has e.1 with
        | some e => .error (.unmatchedBlock e.1 (some e.2.head.location))
        | none => .ok (Markup.fillAll (overrides.mapValues Outline.markup) [] (Outline.markupAll os))) := by
  rw [Markup.merge, Outline.blocks_markup, hb, Outline.blocks_markup, hov]
  simp only [Except.map, Dictionary.has_mapValues]
  rw [Dictionary.find?_mapValues Outline.markup overrides fun k => !blocks.has k]
  cases overrides.find? fun e => !blocks.has e.1 with
  | none => rfl
  | some e => simp only [Option.map_some, e.2.head_markup]

theorem merges_of_tables (ho : s.Holds os) (ht : s.Holds ts) (hd : ∀ x ∈ ids os, x ∉ ids ts) (hs : s.Sound)
    (hb : Outline.table os = .ok blocks) (hov : Outline.table ts = .ok overrides) :
    s.Merges os ts (s.merge (os.map Outline.id) (ts.map Outline.id)) := by
  have hf := filled_of_held ho hd hb hov
  have hcopy := copy_of_tables hb hov
  rw [merge_of_tables ho ht hb hov]
  set f := (s.unfilled overrides).fillAll (blocks.mapValues Outline.id)
  have hfilled : f.filled = (Markup.merge (Outline.markupAll os) (Outline.markupAll ts)).1 := by
    rw [hcopy, ← filled_of_tables ht hov, hf.filled, List.nil_append]
  -- the first block of the template that the layout lacks
  have hleft : f.unclaimed.head? = (overrides.find? fun e => !blocks.has e.1).map fun e => (e.1, e.2.id) := by
    rw [hf.unclaimed, List.head?_filter]
    simp only [Dictionary.has_mapValues]
    exact Dictionary.find?_mapValues Outline.id overrides fun k => !blocks.has k
  cases hfind : overrides.find? fun e => !blocks.has e.1 with
  | some e =>
    rw [hfind] at hleft hcopy
    constructor
    · exact hfilled
    · intro issue hi
      rw [hcopy] at hi
      cases hi
      have hm : e.2 ∈ partsAll ts := Outline.mem_table hov (List.mem_of_find?_eq_some hfind)
      simp only [hleft, Option.map_some, hf.head, (ht.shows e.2 hm).head]
    · intro found hi
      rw [hcopy] at hi
      exact nomatch hi
  | none =>
    rw [hfind] at hleft hcopy
    constructor
    · exact hfilled
    · intro issue hi
      rw [hcopy] at hi
      exact nomatch hi
    · intro found hi
      rw [hcopy] at hi
      cases hi
      refine ⟨by simp only [hleft, Option.map_none], fun ha => ?_⟩
      have hfills := fills_of_filled ho ht hd hb hov ha hf
      obtain ⟨os', hr⟩ := hfills.exists_refills hs os [] (fun _ h => h) ho (.of_table hb)
      refine ⟨os', hr.ids, hr.markup, hr.holds, fun x hx => ?_⟩
      refine (hr.gained x hx).imp_right ?_
      rintro ⟨name, -, -, source, hsrc, hx⟩
      exact Outline.ids_content_subset (Outline.mem_table hov (Dictionary.mem_of_get? hsrc)) hx

/-- Merging in place is merging copies. -/
theorem merges (ho : s.Holds os) (ht : s.Holds ts) (hd : ∀ x ∈ ids os, x ∉ ids ts) (hs : s.Sound) :
    s.Merges os ts (s.merge (os.map Outline.id) (ts.map Outline.id)) := by
  have refused (l : Location)
      (hm : s.merge (os.map Outline.id) (ts.map Outline.id) =
        { store := s, issue? := some (.missingBlockName (some l)) })
      (hc : Markup.merge (Outline.markupAll os) (Outline.markupAll ts) =
        ([], .error (.missingBlockName (some l)))) :
      s.Merges os ts (s.merge (os.map Outline.id) (ts.map Outline.id)) := by
    rw [hm]
    refine ⟨by rw [hc], fun issue hi => ?_, fun found hi => ?_⟩
    · rw [hc] at hi
      cases hi
      rfl
    · rw [hc] at hi
      exact nomatch hi
  cases hb : Outline.table os with
  | error l =>
    apply refused l
    · rw [merge, ho.blocks_eq, hb]
      rfl
    · rw [Markup.merge, Outline.blocks_markup, hb]
      rfl
  | ok blocks =>
    cases hov : Outline.table ts with
    | error l =>
      apply refused l
      · rw [merge, ho.blocks_eq, hb, ht.blocks_eq, hov]
        rfl
      · rw [Markup.merge, Outline.blocks_markup, hb, Outline.blocks_markup, hov]
        rfl
    | ok overrides => exact merges_of_tables ho ht hd hs hb hov

end Store

end LayoutInheritance
