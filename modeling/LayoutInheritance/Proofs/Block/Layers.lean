import LayoutInheritance.Proofs.Block.Substitution

/-! Blocks that lie side by side. When each block of a document has a name of its own and none lies in another,
filling the document is a change of the contents of its blocks, one by one, and the outcome is such a document
again: fillings follow one another as changes do. -/

namespace LayoutInheritance.Markup

/-- Each block has a name of its own and no block inside. -/
structure SideBySide (ms : List Markup) : Prop where
  named : ∀ m ∈ visitedAll ms, m.head.blockName? ≠ none
  distinct : (blockNames ms).Nodup
  apart : ∀ m ∈ visitedAll ms, visitedAll m.content = []

theorem sideBySide_iff {ms : List Markup} : SideBySide ms ↔ (∀ m ∈ visitedAll ms, m.head.blockName? ≠ none) ∧
    (blockNames ms).Nodup ∧ ∀ m ∈ visitedAll ms, visitedAll m.content = [] :=
  ⟨fun h => ⟨h.named, h.distinct, h.apart⟩, fun h => ⟨h.1, h.2.1, h.2.2⟩⟩

instance (ms : List Markup) : Decidable (SideBySide ms) :=
  decidable_of_iff _ sideBySide_iff.symm

mutual

/-- The node with the contents of the blocks changed by `f`. What lies in a block is not looked at. -/
def refill (f : String → Option (List Markup) → Option (List Markup)) : Markup → Markup
  | leaf h =>
    match h.blockName? with
    | some name => ofContent? h (f name none)
    | none => leaf h
  | branch h content =>
    match h.blockName? with
    | some name => ofContent? h (f name (some content))
    | none => branch h (refillAll f content)

def refillAll (f : String → Option (List Markup) → Option (List Markup)) : List Markup → List Markup
  | [] => []
  | m :: rest => m.refill f :: refillAll f rest

end

/-- The content that a template leaves a block of a layout with. -/
def overridden (template : List Markup) (name : String) (content? : Option (List Markup)) : Option (List Markup) :=
  match last? name template with
  | some block => some ((BlockType.ofHead block.head).combine block.content (content?.getD []))
  | none => content?

variable {m : Markup} {ms template : List Markup} {later : List String} {overrides : Dictionary String Markup}
  {f : String → Option (List Markup) → Option (List Markup)}

/-! ### Blocks and their names -/

theorem visited_eq (m : Markup) :
    m.visited = (if m.head.isTag then visitedAll m.content else []) ++ if m.head.isBlock then [m] else [] := by
  cases m with
  | leaf h =>
    change (if h.isBlock then [leaf h] else []) = (if h.isTag then [] else []) ++ _
    rw [ite_self]
    rfl
  | branch h content => rfl

theorem visitedAll_singleton (m : Markup) : visitedAll [m] = m.visited := by
  rw [visitedAll, visitedAll, List.append_nil]

theorem blockNames_cons (m : Markup) (ms : List Markup) : blockNames (m :: ms) = blockNames [m] ++ blockNames ms := by
  simp [blockNames, visitedAll]

namespace SideBySide

theorem first (h : SideBySide (m :: ms)) : SideBySide [m] where
  named k hk := h.named k (List.mem_append_left _ (visitedAll_singleton m ▸ hk))
  distinct := (List.nodup_append'.1 (blockNames_cons m ms ▸ h.distinct)).1
  apart k hk := h.apart k (List.mem_append_left _ (visitedAll_singleton m ▸ hk))

theorem rest (h : SideBySide (m :: ms)) : SideBySide ms where
  named k hk := h.named k (List.mem_append_right _ hk)
  distinct := (List.nodup_append'.1 (blockNames_cons m ms ▸ h.distinct)).2.1
  apart k hk := h.apart k (List.mem_append_right _ hk)

/-- What stands in a tag that is not a block. -/
theorem inner (h : SideBySide [m]) (ht : m.head.isTag) : SideBySide m.content := by
  have hsub : (visitedAll m.content).Sublist (visitedAll [m]) := by
    rw [visitedAll_singleton, visited_eq, if_pos ht]
    exact List.sublist_append_left ..
  exact ⟨fun k hk => h.named k (hsub.subset hk), h.distinct.sublist (hsub.filterMap _),
    fun k hk => h.apart k (hsub.subset hk)⟩

theorem content_of_block (h : SideBySide [m]) (hb : m.head.isBlock) : visitedAll m.content = [] := by
  apply h.apart
  rw [visitedAll_singleton, visited_eq, if_pos hb]
  exact List.mem_append_right _ (List.mem_singleton_self m)

end SideBySide

/-- The heads of blocks, in the order in which they are visited. -/
def blockHeads (ms : List Markup) : List (Head Markup) :=
  (visitedAll ms).map head

theorem blockNames_eq (ms : List Markup) : blockNames ms = (blockHeads ms).filterMap Head.blockName? := by
  rw [blockNames, blockHeads, List.filterMap_map]
  rfl

theorem blockNames_of_free (h : visitedAll ms = []) : blockNames ms = [] := by
  rw [blockNames, h, List.filterMap_nil]

theorem isBlock_of_blockName? {h : Head Markup} {name : String} (hn : h.blockName? = some name) : h.isBlock := by
  by_contra hb
  rw [Head.blockName?, if_neg hb] at hn
  cases hn

theorem mem_blockNames_self {name : String} (hn : m.head.blockName? = some name) : name ∈ blockNames [m] := by
  refine List.mem_filterMap.2 ⟨m, ?_, hn⟩
  rw [visitedAll_singleton, visited_eq, if_pos (isBlock_of_blockName? hn)]
  exact List.mem_append_right _ (List.mem_singleton_self m)

theorem blockNames_content_subset (ht : m.head.isTag) : blockNames m.content ⊆ blockNames [m] := by
  rw [blockNames, blockNames, visitedAll_singleton, visited_eq, if_pos ht, List.filterMap_append]
  exact List.subset_append_left ..

/-- A block that lies side by side with others has a name. -/
theorem SideBySide.not_block (h : SideBySide [m]) (hn : m.head.blockName? = none) : m.head.isBlock = false := by
  by_contra hb
  rw [Bool.not_eq_false] at hb
  refine h.named m ?_ hn
  rw [visitedAll_singleton, visited_eq, if_pos hb]
  exact List.mem_append_right _ (List.mem_singleton_self m)

theorem head_ofContent? (h : Head Markup) (content? : Option (List Markup)) : (ofContent? h content?).head = h := by
  cases content? <;> rfl

theorem content_ofContent? (h : Head Markup) (content? : Option (List Markup)) :
    (ofContent? h content?).content = content?.getD [] := by
  cases content? <;> rfl

/-! ### Filling -/

mutual

/-- Nothing changes where there are no blocks. -/
theorem fill_of_free : ∀ (m : Markup) (later : List String), m.visited = [] → m.fill overrides later = m
  | leaf h, later, hv => by
    have hb : h.isBlock = false := by
      by_contra hb
      rw [Bool.not_eq_false] at hb
      rw [visited, if_pos hb] at hv
      exact nomatch hv
    have hn : h.blockName? = none := by rw [Head.blockName?, hb]; rfl
    rw [fill, Head.stands?, hn]
    rfl
  | branch h content, later, hv => by
    rw [visited, List.append_eq_nil_iff] at hv
    have hb : h.isBlock = false := by
      by_contra hb
      rw [Bool.not_eq_false] at hb
      rw [if_pos hb] at hv
      exact nomatch hv.2
    have hn : h.blockName? = none := by rw [Head.blockName?, hb]; rfl
    have hi : (if h.isTag then fillAll overrides (h.blockName?.toList ++ later) content else content) = content := by
      split
      · next ht =>
        rw [if_pos ht] at hv
        exact fillAll_of_free content _ hv.1
      · rfl
    rw [fill, hi, Head.stands?, hn]
    rfl

theorem fillAll_of_free : ∀ (ms : List Markup) (later : List String), visitedAll ms = [] →
    fillAll overrides later ms = ms
  | [], _, _ => rfl
  | m :: rest, later, hv => by
    rw [visitedAll, List.append_eq_nil_iff] at hv
    rw [fillAll, fill_of_free m _ hv.1, fillAll_of_free rest _ hv.2]

end

/-- A block with no block inside is filled by itself. -/
theorem fill_block {h : Head Markup} {name : String} {content? : Option (List Markup)}
    (hn : h.blockName? = some name) (hl : name ∉ later) (hc : visitedAll (content?.getD []) = [])
    (ho : overrides.get? name = last? name template) :
    (ofContent? h content?).fill overrides later = ofContent? h (overridden template name content?) := by
  have hs : h.stands? later = some name := by
    rw [Head.stands?, hn, Option.filter_some, if_pos (by simpa using hl)]
  cases content? with
  | none =>
    rw [ofContent?, fill, hs, Option.bind_some, ho, overridden]
    cases last? name template <;> rfl
  | some content =>
    have hi : (if h.isTag then fillAll overrides (h.blockName?.toList ++ later) content else content) = content := by
      split
      · exact fillAll_of_free content _ hc
      · rfl
    rw [ofContent?, fill, hi, hs, Option.bind_some, ho, overridden]
    cases last? name template <;> rfl

/-- No content that `f` gives to a block brings blocks along. -/
def Preserving (f : String → Option (List Markup) → Option (List Markup)) : Prop :=
  ∀ name content?, visitedAll (content?.getD []) = [] → visitedAll ((f name content?).getD []) = []

theorem visited_block {h : Head Markup} {name : String} (content? : Option (List Markup))
    (hn : h.blockName? = some name) (hc : visitedAll (content?.getD []) = []) :
    (ofContent? h content?).visited.map head = [h] := by
  rw [visited_eq, head_ofContent?, content_ofContent?, hc, if_pos (isBlock_of_blockName? hn), ite_self, List.nil_append,
    List.map_singleton, head_ofContent?]

mutual

theorem refill_self : ∀ m : Markup, m.refill (fun _ content? => content?) = m
  | leaf h => by
    rw [refill]
    cases h.blockName? <;> rfl
  | branch h content => by
    rw [refill, refillAll_self content]
    cases h.blockName? <;> rfl

theorem refillAll_self : ∀ ms : List Markup, refillAll (fun _ content? => content?) ms = ms
  | [] => rfl
  | m :: rest => by rw [refillAll, refill_self m, refillAll_self rest]

end

mutual

theorem blockHeads_refill (hf : Preserving f) : ∀ m : Markup, m.Tagged → SideBySide [m] →
    (m.refill f).visited.map head = m.visited.map head
  | leaf h, _, _ => by
    rw [refill]
    cases hn : h.blockName? with
    | none => rfl
    | some name => exact (visited_block _ hn (hf name none rfl)).trans (visited_block none hn rfl).symm
  | branch h content, ht, hs => by
    rw [refill]
    cases hn : h.blockName? with
    | none =>
      have hi := blockHeads_refillAll hf content ht.2 (hs.inner ht.1)
      have hb : h.isBlock = false := hs.not_block hn
      simp only [blockHeads] at hi
      simp only [visited, hb, Bool.false_eq_true, if_false, List.append_nil, if_pos ht.1, hi]
    | some name =>
      have hc : visitedAll content = [] := hs.content_of_block (isBlock_of_blockName? hn)
      exact (visited_block _ hn (hf name (some content) hc)).trans (visited_block (some content) hn hc).symm

/-- The blocks stay. -/
theorem blockHeads_refillAll (hf : Preserving f) : ∀ ms : List Markup, TaggedAll ms → SideBySide ms →
    blockHeads (refillAll f ms) = blockHeads ms
  | [], _, _ => rfl
  | m :: rest, ht, hs => by
    have hm := blockHeads_refill hf m ht.1 hs.first
    have hrest := blockHeads_refillAll hf rest ht.2 hs.rest
    rw [blockHeads, refillAll, visitedAll, List.map_append, hm, blockHeads, visitedAll, List.map_append]
    exact congrArg _ hrest

end

theorem blockNames_refillAll (hf : Preserving f) (ht : TaggedAll ms) (hs : SideBySide ms) :
    blockNames (refillAll f ms) = blockNames ms := by
  rw [blockNames_eq, blockHeads_refillAll hf ms ht hs, ← blockNames_eq]

mutual

theorem fill_refill (hf : Preserving f) (ho : ∀ name, overrides.get? name = last? name template) :
    ∀ (m : Markup) (later : List String), m.Tagged → SideBySide [m] → (∀ name ∈ blockNames [m], name ∉ later) →
      (m.refill f).fill overrides later = m.refill fun name content? => overridden template name (f name content?)
  | leaf h, later, _, _, hl => by
    rw [refill, refill]
    cases hn : h.blockName? with
    | none =>
      rw [fill, Head.stands?, hn]
      rfl
    | some name => exact fill_block hn (hl name (mem_blockNames_self hn)) (hf name none rfl) (ho name)
  | branch h content, later, ht, hs, hl => by
    rw [refill, refill]
    cases hn : h.blockName? with
    | none =>
      have hi := fillAll_refillAll hf ho content later ht.2 (hs.inner ht.1) fun name hm =>
        hl name (blockNames_content_subset (m := branch h content) ht.1 hm)
      simp only [fill, Head.stands?, hn, if_pos ht.1, Option.toList_none, List.nil_append, hi]
      rfl
    | some name =>
      have hc : visitedAll content = [] := hs.content_of_block (isBlock_of_blockName? hn)
      exact fill_block hn (hl name (mem_blockNames_self hn)) (hf name (some content) hc) (ho name)

/-- Filling a document whose blocks lie side by side changes their contents one by one. -/
theorem fillAll_refillAll (hf : Preserving f) (ho : ∀ name, overrides.get? name = last? name template) :
    ∀ (ms : List Markup) (later : List String), TaggedAll ms → SideBySide ms → (∀ name ∈ blockNames ms, name ∉ later) →
      fillAll overrides later (refillAll f ms) =
        refillAll (fun name content? => overridden template name (f name content?)) ms
  | [], _, _, _, _ => rfl
  | m :: rest, later, ht, hs, hl => by
    have hnames := blockNames_refillAll hf ht.2 hs.rest
    have hapart := List.nodup_append'.1 (blockNames_cons m rest ▸ hs.distinct)
    rw [refillAll, fillAll, hnames, refillAll, fill_refill hf ho m _ ht.1 hs.first,
      fillAll_refillAll hf ho rest _ ht.2 hs.rest]
    · exact fun name hn => hl name (by rw [blockNames_cons]; exact List.mem_append_right _ hn)
    · intro name hn hm
      rcases List.mem_append.1 hm with hm | hm
      · exact hapart.2.2 hn hm
      · exact hl name (by rw [blockNames_cons]; exact List.mem_append_left _ hn) hm

end

/-! ### Merging -/

theorem mem_visitedAll_of_last? {name : String} {block : Markup} (h : last? name ms = some block) :
    block ∈ visitedAll ms := by
  obtain ⟨hd, hm, -⟩ := mem_of_latest? h
  obtain ⟨m, hv, he⟩ := List.mem_map.1 hm
  cases he
  exact hv

theorem visitedAll_combine {type : BlockType} {as bs : List Markup} (ha : visitedAll as = [])
    (hb : visitedAll bs = []) : visitedAll (type.combine as bs) = [] := by
  cases type with
  | replace => exact ha
  | prepend => rw [BlockType.combine, visitedAll_append, ha, hb, List.append_nil]
  | append => rw [BlockType.combine, visitedAll_append, ha, hb, List.append_nil]

theorem Preserving.overridden (hf : Preserving f) (hs : SideBySide template) :
    Preserving fun name content? => overridden template name (f name content?) := by
  intro name content? hc
  have hcontent := hf name content? hc
  dsimp only [Markup.overridden]
  cases hl : last? name template with
  | none => exact hcontent
  | some block => exact visitedAll_combine (hs.apart block (mem_visitedAll_of_last? hl)) hcontent

theorem exists_outline (ms : List Markup) : ∃ os, Outline.markupAll os = ms := by
  obtain ⟨os, hm, -, -⟩ := Store.stored_addAll {} ms
  exact ⟨os, hm⟩

theorem last?_ne_none {name : String} : last? name ms ≠ none ↔ name ∈ blockNames ms := by
  obtain ⟨os, rfl⟩ := exists_outline ms
  rw [Outline.last?_markup, Outline.blockNames_markup, ← Outline.last?_ne_none, ne_eq, Option.map_eq_none_iff]

theorem get?_blocks {table : Dictionary String Markup} (h : blocks ms = .ok table) (name : String) :
    table.get? name = last? name ms := by
  rw [get?_enterAll h name, Dictionary.get?_nil, Option.or_none]
  rfl

theorem has_blocks {table : Dictionary String Markup} (h : blocks ms = .ok table) {name : String} :
    table.has name ↔ name ∈ blockNames ms := by
  rw [Dictionary.has, get?_blocks h, Option.isSome_iff_ne_none, last?_ne_none]

/-- Blocks with names can be collected. -/
theorem exists_blocks (h : ∀ hd ∈ blockHeads ms, hd.blockName? ≠ none) : ∃ table, blocks ms = .ok table := by
  have entered : ∀ (es : List (Head Markup × Markup)) (found : Dictionary String Markup),
      (∀ e ∈ es, e.1.attribute? "name" ≠ none) → ∃ table, enterAll found es = .ok table := by
    intro es
    induction es with
    | nil => exact fun found _ => ⟨found, rfl⟩
    | cons e es ih =>
      intro found he
      obtain ⟨hd, m⟩ := e
      obtain ⟨name, hn⟩ := Option.ne_none_iff_exists'.1 (he (hd, m) (List.mem_cons_self ..))
      rw [enterAll, hn]
      exact ih _ fun e hm => he e (List.mem_cons_of_mem _ hm)
  refine entered _ _ fun e he hnone => ?_
  obtain ⟨m, hm, rfl⟩ := List.mem_map.1 he
  refine h m.head (List.mem_map_of_mem hm) ?_
  rw [Head.blockName?]
  split
  · exact hnone
  · rfl

mutual

theorem SideBySide.apartOf (names : List String) : ∀ (m : Markup) (later : List String), m.Tagged → SideBySide [m] →
    m.Apart names later
  | leaf _, _, _, _ => trivial
  | branch h content, later, ht, hs => by
    refine ⟨SideBySide.apartAll names content _ ht.2 (hs.inner ht.1), fun name _ hn name' _ hn' => ?_⟩
    have hb : h.blockName? = some name := (Option.filter_eq_some_iff.1 hn).1
    have hc : visitedAll content = [] := hs.content_of_block (isBlock_of_blockName? hb)
    rw [blockNames_of_free hc] at hn'
    exact nomatch hn'

theorem SideBySide.apartAll (names : List String) : ∀ (ms : List Markup) (later : List String), TaggedAll ms →
    SideBySide ms → ApartAll names later ms
  | [], _, _, _ => trivial
  | m :: rest, _, ht, hs =>
    ⟨SideBySide.apartOf names m _ ht.1 hs.first, SideBySide.apartAll names rest _ ht.2 hs.rest⟩

end

/-- A template names no block that the layout lacks. -/
theorem merge_refillAll (hf : Preserving f) (ht : TaggedAll ms) (hs : SideBySide ms) (hs' : SideBySide template)
    (hn : blockNames template ⊆ blockNames ms) :
    (merge (refillAll f ms) template).2 =
      .ok (refillAll (fun name content? => overridden template name (f name content?)) ms) := by
  obtain ⟨found, hfound⟩ : ∃ found, blocks (refillAll f ms) = .ok found := by
    refine exists_blocks fun hd hm => ?_
    rw [blockHeads_refillAll hf ms ht hs] at hm
    obtain ⟨m, hv, rfl⟩ := List.mem_map.1 hm
    exact hs.named m hv
  obtain ⟨overrides, hov⟩ : ∃ overrides, blocks template = .ok overrides := by
    refine exists_blocks fun hd hm => ?_
    obtain ⟨m, hv, rfl⟩ := List.mem_map.1 hm
    exact hs'.named m hv
  have hfind : (overrides.find? fun e => !found.has e.1) = none := by
    refine List.find?_eq_none.2 fun e he => ?_
    have hname : e.1 ∈ blockNames template := by
      rw [← has_blocks hov, Dictionary.has, Option.isSome_iff_ne_none]
      exact fun hnone => Dictionary.get?_eq_none_iff.1 hnone (List.mem_map_of_mem he)
    rw [← blockNames_refillAll hf ht hs] at hn
    simp [(has_blocks hfound).2 (hn hname)]
  rw [merge, hfound, hov]
  simp only [hfind]
  rw [fillAll_refillAll hf (get?_blocks hov) ms [] ht hs fun _ _ => List.not_mem_nil]

end LayoutInheritance.Markup
