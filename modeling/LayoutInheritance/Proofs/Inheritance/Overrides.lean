import LayoutInheritance.Proofs.Inheritance.Meaning

/-! What of a template matters. A merge finds the blocks of a template by name, takes the type and the content of each,
and asks in the end which names are left. So two templates whose blocks agree in that are merged alike, whatever else
they hold and in whatever order their blocks stand. -/

namespace LayoutInheritance

open Outline (ids)

/-! ### Substitutions -/

/-- A relation between nodes that holds of nodes with the same head when it holds of their contents. -/
structure Markup.Congruence (R : Markup → Markup → Prop) : Prop where
  leaf : ∀ h, R (.leaf h) (.leaf h)
  branch : ∀ h content content', List.Forall₂ R content content' → R (.branch h content) (.branch h content')

theorem Markup.congruence_eq : Congruence Eq where
  leaf _ := rfl
  branch _ _ _ hc := by rw [List.forall₂_eq_eq_eq] at hc; rw [hc]

/-- Blocks of the same type, with contents that are related node by node. -/
def Markup.FillAlike (R : Markup → Markup → Prop) (b b' : Markup) : Prop :=
  BlockType.ofHead b.head = BlockType.ofHead b'.head ∧ List.Forall₂ R b.content b'.content

theorem BlockType.forall₂_combine {α β : Type} {R : α → β → Prop} (type : BlockType) {a b : List α} {a' b' : List β}
    (ha : List.Forall₂ R a a') (hb : List.Forall₂ R b b') : List.Forall₂ R (type.combine a b) (type.combine a' b') := by
  cases type with
  | replace => exact ha
  | prepend => exact List.rel_append ha hb
  | append => exact List.rel_append hb ha

namespace Outline

open Markup (Congruence FillAlike)

variable {R : Markup → Markup → Prop} {source? source?' : Outline → Option Markup}

theorem rel_filled (hR : Congruence R) (h : Head Markup) {b b' : Markup} (hb : FillAlike R b b')
    {inner inner' : List Markup} (hi : List.Forall₂ R inner inner') :
    R (.branch h ((BlockType.ofHead b.head).combine b.content inner))
      (.branch h ((BlockType.ofHead b'.head).combine b'.content inner')) := by
  rw [← hb.1]
  exact hR.branch h _ _ (BlockType.forall₂_combine _ hb.2 hi)

mutual

theorem substituted_rel (hR : Congruence R) (hs : ∀ o, Option.Rel (FillAlike R) (source? o) (source?' o)) :
    ∀ o : Outline, R (o.substituted source?) (o.substituted source?')
  | leaf id h => by
    have hrel := hs (leaf id h)
    rw [substituted, substituted]
    generalize source? (leaf id h) = b, source?' (leaf id h) = b' at hrel
    cases hrel with
    | none => exact hR.leaf h
    | some hb => exact rel_filled hR h hb .nil
  | branch id h content => by
    have hi := substitutedAll_rel hR hs content
    have hrel := hs (branch id h content)
    rw [substituted, substituted]
    generalize source? (branch id h content) = b, source?' (branch id h content) = b' at hrel
    cases hrel with
    | none => exact hR.branch h _ _ hi
    | some hb => exact rel_filled hR h hb hi

theorem substitutedAll_rel (hR : Congruence R) (hs : ∀ o, Option.Rel (FillAlike R) (source? o) (source?' o)) :
    ∀ os : List Outline, List.Forall₂ R (substitutedAll source? os) (substitutedAll source?' os)
  | [] => .nil
  | o :: os => .cons (substituted_rel hR hs o) (substitutedAll_rel hR hs os)

end

end Outline

/-- A layout takes related contents from templates whose last blocks are related, name by name. -/
theorem substitution_rel {R : Markup → Markup → Prop} (hR : Markup.Congruence R) {template template' : List Markup}
    (h : ∀ name, Option.Rel (Markup.FillAlike R) (Markup.last? name template) (Markup.last? name template'))
    (layout : List Outline) :
    List.Forall₂ R (substitution layout template) (substitution layout template') := by
  refine Outline.substitutedAll_rel hR (fun o => ?_) layout
  unfold Outline.filler?
  cases o.head.blockName? with
  | none => exact .none
  | some name =>
    simp only [Option.bind_some]
    split
    · exact h name
    · exact .none

/-! ### Blocks that agree -/

namespace Store

variable {s s' : Store} {layout layout' template template' : List NodeId} {same : List NodeId → List NodeId → Prop}
  {found claims claims' : BlockTable}

/-- The blocks of `template` in `s` and of `template'` in `s'` have the same names, in any order, and under each name
the same type and the `same` content, where having none counts as having nothing. -/
def SameOverrides (s s' : Store) (same : List NodeId → List NodeId → Prop) (template template' : List NodeId) : Prop :=
  ∃ claims claims', s.blocks template = .ok claims ∧ s'.blocks template' = .ok claims' ∧
    (∀ name, name ∈ Dictionary.keys claims ↔ name ∈ Dictionary.keys claims') ∧
    ∀ name x x', claims.get? name = some x → claims'.get? name = some x' →
      BlockType.ofHead (s.head x) = BlockType.ofHead (s'.head x') ∧ same (s.content x) (s'.content x')

/-- A merge fails when the layout lacks a name of the template. -/
theorem code_of_merge (hb : s.blocks layout = .ok found) (hc : s.blocks template = .ok claims)
    (hd : ∀ x, s.Within layout x → ¬ s.Within template x) :
    (s.merge layout template).issue?.map Issue.code =
      if ∀ name ∈ Dictionary.keys claims, found.has name then none else some "UnmatchedTemplateBlockError" := by
  have hf := filled_of_blocks hb fun e he hx => hd e.2 hx (mem_blocks hc he).1
  rw [merge_of_blocks hb hc]
  simp only [hf.unclaimed, List.head?_filter, Option.map_map]
  cases hfind : claims.find? fun e => !found.has e.1 with
  | none =>
    rw [List.find?_eq_none] at hfind
    rw [if_pos fun name hn => ?_]
    · rfl
    · obtain ⟨e, he, rfl⟩ := List.mem_map.1 hn
      simpa using hfind e he
  | some e =>
    have hleft : found.has e.1 = false := by simpa using List.find?_some hfind
    rw [if_neg fun hall => ?_]
    · rfl
    · have hin := hall e.1 (List.mem_map_of_mem (List.mem_of_find?_eq_some hfind))
      exact nomatch hleft.symm.trans hin

/-- Merges into layouts whose blocks have the same names, from templates whose blocks have, fail for the same kind of
reason. -/
theorem code_of_sameOverrides
    (hl : (s'.blocks layout').map Dictionary.keys = (s.blocks layout).map Dictionary.keys)
    (h : s.SameOverrides s' same template template') (hd : ∀ x, s.Within layout x → ¬ s.Within template x)
    (hd' : ∀ x, s'.Within layout' x → ¬ s'.Within template' x) :
    (s'.merge layout' template').issue?.map Issue.code = (s.merge layout template).issue?.map Issue.code := by
  obtain ⟨claims, claims', hc, hc', hk, -⟩ := h
  cases hb : s.blocks layout with
  | error l =>
    cases hb' : s'.blocks layout' with
    | error l' =>
      rw [merge, merge, hb, hb']
      rfl
    | ok found' =>
      rw [hb, hb'] at hl
      cases hl
  | ok found =>
    cases hb' : s'.blocks layout' with
    | error l' =>
      rw [hb, hb'] at hl
      cases hl
    | ok found' =>
      rw [hb, hb'] at hl
      have hkeys : Dictionary.keys found' = Dictionary.keys found := Except.ok.inj hl
      have hhas (name : String) : found'.has name = found.has name := by
        rw [Bool.eq_iff_iff, ← Bool.not_eq_false, ← Bool.not_eq_false, Dictionary.has_eq_false_iff,
          Dictionary.has_eq_false_iff, hkeys]
      rw [code_of_merge hb hc hd, code_of_merge hb' hc' hd']
      simp only [hhas, hk]

/-! ### The same layout -/

/-- Only the overrides of a template matter to a merge: whatever else it holds and in whatever order its blocks stand,
the store afterwards is the same. -/
theorem store_of_sameOverrides (h : s.SameOverrides s Eq template template')
    (hd : ∀ x, s.Within layout x → ¬ s.Within template x) (hd' : ∀ x, s.Within layout x → ¬ s.Within template' x) :
    (s.merge layout template').store = (s.merge layout template).store := by
  obtain ⟨claims, claims', hc, hc', hk, hsame⟩ := h
  cases hb : s.blocks layout with
  | error l =>
    rw [merge, merge, hb]
  | ok found =>
    have hf := filled_of_blocks hb fun e he hx => hd e.2 hx (mem_blocks hc he).1
    have hf' := filled_of_blocks hb fun e he hx => hd' e.2 hx (mem_blocks hc' he).1
    rw [merge_of_blocks hb hc, merge_of_blocks hb hc']
    refine ext_cells (hf'.size.trans hf.size.symm) (fun x => (hf'.head x).trans (hf.head x).symm) fun x => ?_
    by_cases hx : x < s.size
    · rw [hf'.content? x hx, hf.content? x hx]
      simp only [Filling.claim?]
      cases found.find? fun b => b.2 == x with
      | none => rfl
      | some b =>
        have hrel := Dictionary.rel_get? hk b.1 (hsame b.1)
        simp only [Option.bind_some]
        generalize claims.get? b.1 = source, claims'.get? b.1 = source' at hrel
        cases hrel with
        | none => rfl
        | some hs =>
          simp only
          rw [hs.1, hs.2]
    · rw [content?_of_size_le (hf'.size.trans_le (not_lt.1 hx)), content?_of_size_le (hf.size.trans_le (not_lt.1 hx))]

/-! ### A copy of the layout -/

/-- A tree with the same nodes but for their identities, in which the same places are one node. -/
def CopiedTo (s : Store) (tree : List NodeId) (s' : Store) (tree' : List NodeId) : Prop :=
  ∃ f : NodeId → NodeId, Function.Injective f ∧ s'.outline tree' = Outline.renameAll f (s.outline tree)

/-- A layout and a template in a sound store, with no node in common. -/
structure Mergeable (s : Store) (layout template : List NodeId) : Prop where
  sound : s.Sound
  layout_lt : ∀ x ∈ layout, x < s.size
  template_lt : ∀ x ∈ template, x < s.size
  apart : ∀ x, s.Within layout x → ¬ s.Within template x

theorem mergeable_of_outlines (hs : s.Sound) (hl : ∀ x ∈ layout, x < s.size) (ht : ∀ x ∈ template, x < s.size)
    (hd : ∀ x ∈ ids (s.outline layout), x ∉ ids (s.outline template)) : s.Mergeable layout template := by
  refine ⟨hs, hl, ht, fun x hx hx' => hd x ?_ ?_⟩
  · exact (hs.depicts_outline hl).within (by rwa [ids_outline])
  · exact (hs.depicts_outline ht).within (by rwa [ids_outline])

/-- A merge that succeeds is a substitution. -/
theorem Mergeable.document (h : s.Mergeable layout template) (hm : (s.merge layout template).issue? = none) :
    (s.merge layout template).store.document layout = substitution (s.outline layout) (s.document template) := by
  have hl := h.sound.depicts_outline h.layout_lt
  have ht := h.sound.depicts_outline h.template_lt
  have hmerged := hl.merged h.sound ht fun x hx hx' => by
    obtain ⟨o, ho, rfl⟩ := List.mem_map.1 hx
    obtain ⟨p, hp, hid⟩ := List.mem_map.1 hx'
    exact h.apart _ (mem_outline ho).1 (hid ▸ (mem_outline hp).1)
  rw [ids_outline, ids_outline] at hmerged
  obtain ⟨after, hids, hmarkup, hafter, -⟩ := hmerged.result hm
  have hdocument := hafter.document_eq hmerged.sound
  rwa [hids, ids_outline, hmarkup] at hdocument

/-- The block that a table has under a name is the last of that name in the document. -/
theorem rel_last? (hs : s.Sound) (ht : ∀ x ∈ template, x < s.size) (hc : s.blocks template = .ok claims) (name : String) :
    Option.Rel (fun x b => b.head = s.head x ∧ b.content = s.document (s.content x)) (claims.get? name)
      (Markup.last? name (s.document template)) := by
  have hd := hs.depicts_outline ht
  have htable : s.blocks ((s.outline template).map Outline.id) = .ok claims := by rwa [ids_outline]
  obtain ⟨blocks, hb, rfl⟩ := table_of_blocks (hd.outline_eq hs) htable
  rw [Dictionary.get?_mapValues, Outline.get?_table hb, document, Outline.last?_markup]
  cases hl : Outline.last? name (s.outline template) with
  | none => exact .none
  | some o =>
    have ho := (Outline.mem_of_last? hl).1
    refine .some ⟨?_, ?_⟩
    · rw [Outline.head_markup, (hd o ho).head]
    · rw [Outline.content_markup, (hd o ho).content, (hd.content ho).document_eq hs]

section

variable (hm : s.Mergeable layout template) (hm' : s'.Mergeable layout' template')
  (h : s.SameOverrides s' (fun ids ids' => s'.document ids' = s.document ids) template template')
include hm hm' h

theorem last?_of_sameOverrides (name : String) : Option.Rel (Markup.FillAlike Eq)
    (Markup.last? name (s.document template)) (Markup.last? name (s'.document template')) := by
  obtain ⟨claims, claims', hc, hc', hk, hsame⟩ := h
  have hrel := Dictionary.rel_get? hk name (hsame name)
  have hb := rel_last? hm.sound hm.template_lt hc name
  have hb' := rel_last? hm'.sound hm'.template_lt hc' name
  generalize claims.get? name = x, claims'.get? name = x' at hrel hb hb'
  generalize Markup.last? name (s.document template) = b, Markup.last? name (s'.document template') = b' at hb hb' ⊢
  cases hrel with
  | none =>
    cases hb
    cases hb'
    exact .none
  | some hx =>
    cases hb with | some hb => ?_
    cases hb' with | some hb' => ?_
    refine .some ⟨by rw [hb.1, hb'.1, hx.1], ?_⟩
    rw [hb.2, hb'.2, hx.2, List.forall₂_eq_eq_eq]

/-- Into a copy of the layout, wherever it is, a template with the same overrides is merged to the same document. -/
theorem document_of_sameOverrides (hcopy : s.CopiedTo layout s' layout') (hissue : (s.merge layout template).issue? = none)
    (hissue' : (s'.merge layout' template').issue? = none) :
    (s'.merge layout' template').store.document layout' = (s.merge layout template).store.document layout := by
  obtain ⟨f, hf, hcopy⟩ := hcopy
  have hsub := substitution_rel Markup.congruence_eq (last?_of_sameOverrides hm hm' h) (s.outline layout)
  rw [List.forall₂_eq_eq_eq] at hsub
  rw [hm.document hissue, hm'.document hissue', hcopy, substitution_renameAll hf, hsub]

end

theorem CopiedTo.keys_blocks (h : s.CopiedTo layout s' layout') :
    (s'.blocks layout').map Dictionary.keys = (s.blocks layout).map Dictionary.keys := by
  obtain ⟨f, -, hcopy⟩ := h
  rw [blocks_of_renamed hcopy]
  cases s.blocks layout with
  | error l => rfl
  | ok found => exact congrArg Except.ok (Dictionary.keys_mapValues f found)

end Store

end LayoutInheritance
