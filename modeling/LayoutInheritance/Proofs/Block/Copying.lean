import LayoutInheritance.Proofs.Block.Fill

/-! Filling by copies. On documents that are never changed, a merge makes a new document out of the layout, in
which each block that stands for its name has a copy of the content of the template's block. Filling the
blocks of a store in place comes to the same as long as the template's blocks lie apart: then each of its
nodes goes to one place, and the store holds the new document in nodes of its own. -/

namespace LayoutInheritance

open Outline (ids partsAll)

/-! ### Documents -/

/-- The name of a block. -/
def Head.blockName? (h : Head Markup) : Option String :=
  if h.isBlock then h.attribute? "name" else none

/-- The name that a block stands for, unless it is among the names of the blocks that come `later`. -/
def Head.stands? (h : Head Markup) (later : List String) : Option String :=
  h.blockName?.filter (· ∉ later)

namespace Markup

def content (m : Markup) : List Markup :=
  m.content?.getD []

mutual

/-- The blocks of a node, what lies in a tag before the tag itself. -/
def visited : Markup → List Markup
  | leaf h => if h.isBlock then [leaf h] else []
  | branch h content =>
    (if h.isTag then visitedAll content else []) ++ if h.isBlock then [branch h content] else []

def visitedAll : List Markup → List Markup
  | [] => []
  | m :: rest => m.visited ++ visitedAll rest

end

theorem visitedAll_append (as bs : List Markup) : visitedAll (as ++ bs) = visitedAll as ++ visitedAll bs := by
  induction as with
  | nil => rfl
  | cons m as ih => rw [List.cons_append, visitedAll, ih, visitedAll, List.append_assoc]

def blockNames (ms : List Markup) : List String :=
  (visitedAll ms).filterMap (·.head.blockName?)

/-- The blocks of a document by name. -/
def blocks (ms : List Markup) : Except Location (Dictionary String Markup) :=
  enterAll [] ((visitedAll ms).map fun m => (m.head, m))

mutual

/-- The node with its blocks filled, each with a copy of the content of its override. -/
def fill (overrides : Dictionary String Markup) (later : List String) : Markup → Markup
  | leaf h =>
    match (h.stands? later).bind overrides.get? with
    | some source => branch h ((BlockType.ofHead source.head).combine source.content [])
    | none => leaf h
  | branch h content =>
    let inner := if h.isTag then fillAll overrides (h.blockName?.toList ++ later) content else content
    match (h.stands? later).bind overrides.get? with
    | some source => branch h ((BlockType.ofHead source.head).combine source.content inner)
    | none => branch h inner

def fillAll (overrides : Dictionary String Markup) (later : List String) : List Markup → List Markup
  | [] => []
  | m :: rest => m.fill overrides (blockNames rest ++ later) :: fillAll overrides later rest

end

mutual

/-- No block that stands for one of `names` lies in another block that does. -/
def Apart (names later : List String) : Markup → Prop
  | leaf _ => True
  | branch h content =>
    ApartAll names (h.blockName?.toList ++ later) content ∧
      ∀ name ∈ names, h.stands? later = some name →
        ∀ name' ∈ names, name' ∈ blockNames content → name' ∈ name :: later

def ApartAll (names later : List String) : List Markup → Prop
  | [] => True
  | m :: rest => m.Apart names (blockNames rest ++ later) ∧ ApartAll names later rest

end

/-- No block of a template that a layout has by name lies in another such block. -/
def MatchApart (layout template : List Markup) : Prop :=
  ApartAll (blockNames layout) [] template

mutual

def decideApart (names later : List String) : (m : Markup) → Decidable (m.Apart names later)
  | leaf _ => isTrue trivial
  | branch h content =>
    have := decideApartAll names (h.blockName?.toList ++ later) content
    inferInstanceAs (Decidable (_ ∧ _))

def decideApartAll (names later : List String) : (ms : List Markup) → Decidable (ApartAll names later ms)
  | [] => isTrue trivial
  | m :: rest =>
    have := m.decideApart names (blockNames rest ++ later)
    have := decideApartAll names later rest
    inferInstanceAs (Decidable (_ ∧ _))

end

instance (layout template : List Markup) : Decidable (MatchApart layout template) :=
  decideApartAll (blockNames layout) [] template

/-- A merge of documents: the names filled with the type of each, and the filled copy of the layout, or the
issue that there is instead. -/
def merge (layout template : List Markup) : List (String × BlockType) × Except Issue (List Markup) :=
  match blocks layout, blocks template with
  | .error l, _ => ([], .error (.missingBlockName (some l)))
  | .ok _, .error l => ([], .error (.missingBlockName (some l)))
  | .ok found, .ok overrides =>
    (found.filterMap fun b => (overrides.get? b.1).map fun source => (b.1, BlockType.ofHead source.head),
      match overrides.find? fun e => !found.has e.1 with
      | some e => .error (.unmatchedBlock e.1 (some e.2.head.location))
      | none => .ok (fillAll overrides [] layout))

end Markup

/-! ### Outlines -/

namespace Outline

/-- The names of the blocks of outlines. -/
def blockNames (os : List Outline) : List String :=
  (visitedAll os).filterMap (·.head.blockName?)

theorem head_markup (o : Outline) : o.markup.head = o.head := by
  cases o <;> rfl

theorem markupAll_eq_map (os : List Outline) : markupAll os = os.map markup := by
  induction os with
  | nil => rfl
  | cons o os ih => rw [markupAll, ih, List.map_cons]

theorem content_markup (o : Outline) : o.markup.content = markupAll o.content := by
  cases o <;> rfl

mutual

theorem visited_markup : ∀ o : Outline, o.markup.visited = o.visited.map markup
  | leaf id h => by
    rw [markup, Markup.visited, visited]
    split <;> rfl
  | branch id h content => by
    rw [markup, Markup.visited, visited, List.map_append, visitedAll_markup content]
    congr 1
    · split <;> rfl
    · split <;> rfl

theorem visitedAll_markup : ∀ os : List Outline, Markup.visitedAll (markupAll os) = (visitedAll os).map markup
  | [] => rfl
  | o :: os => by
    rw [markupAll, Markup.visitedAll, visitedAll, List.map_append, visited_markup o, visitedAll_markup os]

end

theorem blockNames_markup (os : List Outline) : Markup.blockNames (markupAll os) = blockNames os := by
  rw [Markup.blockNames, blockNames, visitedAll_markup, List.filterMap_map]
  exact List.filterMap_congr fun o _ => by rw [Function.comp_apply, head_markup]

/-- The blocks of outlines by name. -/
def table (os : List Outline) : Except Location (Dictionary String Outline) :=
  enterAll [] ((visitedAll os).map fun o => (o.head, o))

theorem blocks_markup (os : List Outline) :
    Markup.blocks (markupAll os) = (table os).map (·.mapValues markup) := by
  rw [Markup.blocks, table, visitedAll_markup, ← enterAll_map, List.map_map, List.map_map]
  refine congrArg (enterAll []) (List.map_congr_left fun o _ => ?_)
  rw [Function.comp_apply, Function.comp_apply, head_markup]

/-! ### Blocks that stand for names -/

/-- The block that stands for a name: the one of that name that is visited last. -/
def last? (name : String) (os : List Outline) : Option Outline :=
  latest? name ((visitedAll os).map fun o => (o.head, o))

theorem last?_cons (name : String) (o : Outline) (os : List Outline) :
    last? name (o :: os) = (last? name os).or (last? name [o]) := by
  rw [last?, visitedAll, List.map_append, latest?_append, last?, last?, visitedAll, visitedAll, List.append_nil]

theorem mem_of_last? {name : String} {o : Outline} {os : List Outline} (h : last? name os = some o) :
    o ∈ partsAll os ∧ o.head.blockName? = some name := by
  obtain ⟨hd, hm, hn⟩ := mem_of_latest? h
  obtain ⟨p, hp, hpo⟩ := List.mem_map.1 hm
  cases hpo
  have hv := visitedAll_subset_partsAll hp
  refine ⟨hv.1, ?_⟩
  rw [Head.blockName?, if_pos hv.2, hn]

theorem mem_blockNames {name : String} {os : List Outline} :
    name ∈ blockNames os ↔ ∃ o ∈ visitedAll os, o.head.blockName? = some name :=
  List.mem_filterMap

theorem blockNames_cons (o : Outline) (os : List Outline) :
    blockNames (o :: os) = blockNames [o] ++ blockNames os := by
  simp [blockNames, visitedAll]

theorem last?_ne_none {name : String} {os : List Outline} : last? name os ≠ none ↔ name ∈ blockNames os := by
  rw [last?, latest?_ne_none_iff, mem_blockNames]
  constructor
  · rintro ⟨e, he, hn⟩
    obtain ⟨o, ho, rfl⟩ := List.mem_map.1 he
    refine ⟨o, ho, ?_⟩
    rw [Head.blockName?, if_pos (visitedAll_subset_partsAll ho).2]
    exact hn
  · rintro ⟨o, ho, hn⟩
    rw [Head.blockName?, if_pos (visitedAll_subset_partsAll ho).2] at hn
    exact ⟨_, List.mem_map_of_mem ho, hn⟩

/-- A block stands for its name before all that lie in it. -/
theorem last?_singleton (name : String) (o : Outline) :
    last? name [o] = (if o.head.blockName? = some name then some o else none).or
      (if o.head.isTag then last? name o.content else none) := by
  rw [last?, visitedAll, visitedAll, List.append_nil, visited_eq, List.map_append, latest?_append]
  congr 1
  · rw [Head.blockName?]
    split <;> simp [latest?]
  · split
    · rfl
    · rfl

theorem last?_self {name : String} {o : Outline} (h : o.head.blockName? = some name) :
    last? name [o] = some o := by
  rw [last?_singleton, if_pos h]
  rfl

theorem last?_content {name : String} {o t : Outline} (hb : o.head.blockName? ≠ some name)
    (h : last? name [o] = some t) : last? name o.content = some t := by
  rw [last?_singleton, if_neg hb, Option.none_or] at h
  split at h
  · exact h
  · exact nomatch h

theorem last?_inner {name : String} {o : Outline} (ht : o.head.isTag) (h : o.head.blockName? ≠ some name) :
    last? name [o] = last? name o.content := by
  rw [last?_singleton, if_neg h, if_pos ht]
  rfl

theorem get?_table {table' : Dictionary String Outline} {os : List Outline} (h : table os = .ok table')
    (name : String) :
    table'.get? name = last? name os := by
  rw [get?_enterAll h name, Dictionary.get?_nil, Option.or_none]
  rfl

theorem nodup_table {table' : Dictionary String Outline} {os : List Outline} (h : table os = .ok table') :
    (Dictionary.keys table').Nodup :=
  nodup_enterAll h List.nodup_nil

theorem mem_table {table' : Dictionary String Outline} {os : List Outline} (h : table os = .ok table')
    {e : String × Outline} (he : e ∈ table') : e.2 ∈ partsAll os := by
  have hg := (Dictionary.get?_eq_some_iff (nodup_table h)).2 he
  rw [get?_table h] at hg
  exact (mem_of_last? hg).1

/-- The blocks of a table are named, and in `os` each stands for its name unless the name is among those
that come `later`. -/
structure Stands (table : Dictionary String Outline) (later : List String) (os : List Outline) : Prop where
  named : ∀ name o, table.get? name = some o → o.head.blockName? = some name
  taken : ∀ name ∈ later, ∀ o ∈ partsAll os, table.get? name ≠ some o
  last : ∀ name, name ∉ later → name ∈ blockNames os → table.get? name = last? name os

namespace Stands

variable {t : Dictionary String Outline} {later : List String} {o : Outline} {os : List Outline}

theorem of_table (h : table os = .ok t) : Stands t [] os := by
  refine ⟨fun name o ho => ?_, fun _ hn => (nomatch hn), fun name _ _ => get?_table h name⟩
  rw [get?_table h] at ho
  exact (mem_of_last? ho).2

theorem rest (h : Stands t later (o :: os)) : Stands t later os where
  named := h.named
  taken name hn p hp := h.taken name hn p (List.mem_append_right _ hp)
  last name hn hb := by
    rw [h.last name hn (by rw [blockNames_cons]; exact List.mem_append_right _ hb), last?_cons]
    obtain ⟨p, hp⟩ := Option.ne_none_iff_exists'.1 (last?_ne_none.2 hb)
    rw [hp]
    rfl

theorem first (h : Stands t later (o :: os)) (hd : ∀ p ∈ partsAll os, p ∉ o.parts) :
    Stands t (blockNames os ++ later) [o] where
  named := h.named
  taken name hn p hp hg := by
    rw [partsAll, partsAll, List.append_nil] at hp
    by_cases hl : name ∈ later
    · exact h.taken name hl p (List.mem_append_left _ hp) hg
    · have hb := (List.mem_append.1 hn).resolve_right hl
      obtain ⟨q, hq⟩ := Option.ne_none_iff_exists'.1 (last?_ne_none.2 hb)
      rw [h.rest.last name hl hb, hq] at hg
      cases hg
      exact hd p (mem_of_last? hq).1 hp
  last name hn hb := by
    obtain ⟨hr, hl⟩ := not_or.1 (List.mem_append.not.1 hn)
    have hnone : last? name os = none := by
      by_contra hne
      exact hr (last?_ne_none.1 hne)
    rw [h.last name hl (by rw [blockNames_cons]; exact List.mem_append_left _ hb), last?_cons, hnone]
    rfl

theorem get?_self (h : Stands t later [o]) {name : String} (hb : o.head.blockName? = some name)
    (hn : name ∉ later) : t.get? name = some o := by
  have hs := last?_self hb
  rw [h.last name hn (last?_ne_none.1 (by rw [hs]; simp)), hs]

theorem inner (h : Stands t later [o]) (ht : o.head.isTag) (hd : o ∉ partsAll o.content) :
    Stands t (o.head.blockName?.toList ++ later) o.content where
  named := h.named
  taken name hn p hp hg := by
    by_cases hl : name ∈ later
    · refine h.taken name hl p ?_ hg
      rw [partsAll, partsAll, List.append_nil, parts_eq]
      exact List.mem_cons_of_mem _ hp
    · have hb := Option.mem_toList.1 ((List.mem_append.1 hn).resolve_right hl)
      rw [h.get?_self hb hl] at hg
      cases hg
      exact hd hp
  last name hn hb := by
    obtain ⟨ho, hl⟩ := not_or.1 (List.mem_append.not.1 hn)
    have hi := last?_inner ht fun hb => ho (Option.mem_toList.2 hb)
    rw [h.last name hl (last?_ne_none.1 (hi ▸ last?_ne_none.2 hb)), hi]

/-- Whether a block stands for its name is seen from the names that come later. -/
theorem stands?_iff (h : Stands t later [o]) {name : String} :
    o.head.stands? later = some name ↔ t.get? name = some o := by
  rw [Head.stands?, Option.filter_eq_some_iff, decide_eq_true_iff]
  constructor
  · rintro ⟨hb, hn⟩
    exact h.get?_self hb hn
  · intro hg
    exact ⟨h.named name o hg, fun hn => h.taken name hn o (mem_partsAll_of_mem (List.mem_singleton_self o)) hg⟩

end Stands

/-! ### Blocks that lie apart -/

mutual

/-- When the blocks of `names` lie apart, what lies in one of them lies in no other. -/
theorem disjoint_of_apart {names : List String} {n n' : String} (hn : n ∈ names) (hn' : n' ∈ names)
    (hne : n ≠ n')
    {t t' : Outline} : ∀ {later : List String} {o : Outline}, (ids [o]).Nodup → o.markup.Apart names later →
      n ∉ later → n' ∉ later → last? n [o] = some t → last? n' [o] = some t' →
      (ids t.content).Disjoint (ids t'.content)
  | later, leaf id h, _, _, _, _, ht, ht' => by
    have named {name : String} {p : Outline} (hp : last? name [leaf id h] = some p) :
        h.blockName? = some name := by
      by_contra hb
      exact nomatch last?_content (o := leaf id h) hb hp
    exact absurd (Option.some.inj ((named ht).symm.trans (named ht'))) hne
  | later, branch id h content, hd, ha, hl, hl', ht, ht' => by
    rw [markup, Markup.Apart, blockNames_markup] at ha
    -- the block itself cannot stand for one of the names when a block inside stands for the other
    have alone {name name' : String} (hm : name ∈ names) (hm' : name' ∈ names)
        (hk : name ∉ later) (hk' : name' ∉ later)
        (hne : name ≠ name') (hb : h.blockName? = some name) {p : Outline}
        (hp : last? name' [branch id h content] = some p) : False := by
      have hb' : h.blockName? ≠ some name' := fun he => hne (Option.some.inj (hb.symm.trans he))
      have hs : h.stands? later = some name := by
        rw [Head.stands?, Option.filter_eq_some_iff, decide_eq_true_iff]
        exact ⟨hb, hk⟩
      have hin : name' ∈ blockNames content := last?_ne_none.1 (by
        rw [show content = (branch id h content).content from rfl,
          last?_content (o := branch id h content) hb' hp]
        simp)
      rcases List.mem_cons.1 (ha.2 name hm hs name' hm' hin) with he | he
      · exact hne he.symm
      · exact hk' he
    by_cases hb : h.blockName? = some n
    · exact (alone hn hn' hl hl' hne hb ht').elim
    by_cases hb' : h.blockName? = some n'
    · exact (alone hn' hn hl' hl hne.symm hb' ht).elim
    have outer {name : String} (hb : h.blockName? ≠ some name) (hl : name ∉ later) :
        name ∉ h.blockName?.toList ++ later := by
      intro hm
      rcases List.mem_append.1 hm with hm | hm
      · exact hb (Option.mem_toList.1 hm)
      · exact hl hm
    rw [ids_singleton, List.nodup_cons] at hd
    exact disjoint_of_apartAll hn hn' hne hd.2 ha.1 (outer hb hl) (outer hb' hl')
      (last?_content (o := branch id h content) hb ht) (last?_content (o := branch id h content) hb' ht')

theorem disjoint_of_apartAll {names : List String} {n n' : String} (hn : n ∈ names) (hn' : n' ∈ names)
    (hne : n ≠ n')
    {t t' : Outline} : ∀ {later : List String} {os : List Outline}, (ids os).Nodup →
      Markup.ApartAll names later (markupAll os) → n ∉ later → n' ∉ later →
      last? n os = some t → last? n' os = some t' → (ids t.content).Disjoint (ids t'.content)
  | later, [], _, _, _, _, ht, _ => nomatch ht
  | later, o :: os, hd, ha, hl, hl', ht, ht' => by
    have hparts : (ids [o]).Nodup ∧ (ids os).Nodup ∧ (ids [o]).Disjoint (ids os) := by
      rwa [show o :: os = [o] ++ os from rfl, ids_append, List.nodup_append'] at hd
    rw [markupAll, Markup.ApartAll, blockNames_markup] at ha
    rw [last?_cons, Option.or_eq_some_iff] at ht ht'
    have hnone : ∀ {name}, last? name os = none → name ∉ later → name ∉ blockNames os ++ later := by
      intro name hnone hl hm
      rcases List.mem_append.1 hm with hm | hm
      · exact last?_ne_none.2 hm hnone
      · exact hl hm
    rcases ht with ht | ⟨hr, ht⟩ <;> rcases ht' with ht' | ⟨hr', ht'⟩
    · exact disjoint_of_apartAll hn hn' hne hparts.2.1 ha.2 hl hl' ht ht'
    · intro x hx hx'
      exact hparts.2.2 (ids_content_subset (mem_of_last? ht').1 hx') (ids_content_subset (mem_of_last? ht).1 hx)
    · intro x hx hx'
      exact hparts.2.2 (ids_content_subset (mem_of_last? ht).1 hx) (ids_content_subset (mem_of_last? ht').1 hx')
    · exact disjoint_of_apart hn hn' hne hparts.1 ha.1 (hnone hr hl) (hnone hr' hl') ht ht'

end

end Outline

end LayoutInheritance
