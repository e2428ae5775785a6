import LayoutInheritance.Proofs.Block.Fill
import LayoutInheritance.Proofs.Block.Visit

/-! How a merge fails, told by the visits of its two trees. Blocks are looked up before anything is filled, so a block
without a name leaves the store alone, and one in the layout is reported before one in the template. A name that the
layout lacks is reported once all the others have been filled: the one that the template's visit meets first, at the
place of its block that is met last. -/

namespace LayoutInheritance

theorem Filling.claim?_filter {blocks overrides : BlockTable} {x : NodeId} :
    claim? blocks (overrides.filter fun e => blocks.has e.1) x = claim? blocks overrides x := by
  unfold claim?
  cases hf : blocks.find? fun b => b.2 == x with
  | none => rfl
  | some b =>
    have hb : blocks.has b.1 := by
      rw [← Bool.not_eq_false, Dictionary.has_eq_false_iff, not_not]
      exact List.mem_map_of_mem (List.mem_of_find?_eq_some hf)
    simp [Dictionary.get?_filter blocks.has, hb]

namespace Store

variable {s : Store} {layout template tree found claims : List NodeId} {x : NodeId} {name : String}

/-! ### Names -/

theorem mem_labels : name ∈ s.labels found ↔ ∃ x ∈ found, (s.head x).label = name :=
  List.mem_map

theorem mem_of_lastOf? (h : s.lastOf? found name = some x) : x ∈ found ∧ (s.head x).label = name := by
  refine ⟨List.mem_reverse.1 (List.mem_of_find?_eq_some h), ?_⟩
  simpa using List.find?_some h

theorem exists_lastOf? (hx : x ∈ found) : ∃ y, s.lastOf? found (s.head x).label = some y := by
  rw [← Option.isSome_iff_exists, lastOf?, List.find?_isSome]
  exact ⟨x, List.mem_reverse.2 hx, beq_self_eq_true _⟩

theorem has_entries (s : Store) (found : List NodeId) (name : String) :
    (Dictionary.ofList (s.entries found)).has name = decide (name ∈ s.labels found) := by
  have hiff := Dictionary.has_eq_false_iff (d := Dictionary.ofList (s.entries found)) (k := name)
  rw [Dictionary.keys_ofList, keys_entries, List.mem_eraseDups] at hiff
  by_cases hn : name ∈ s.labels found <;> simp_all

/-- The first name of the template that the layout lacks. -/
def firstUnmatched? (s : Store) (found claims : List NodeId) : Option NodeId :=
  claims.find? fun x => decide ((s.head x).label ∉ s.labels found)

/-- The template's block that fills a node of the layout, when it is the last one of its name. -/
def source? (s : Store) (found claims : List NodeId) (x : NodeId) : Option NodeId :=
  if s.lastOf? found (s.head x).label = some x then s.lastOf? claims (s.head x).label else none

theorem claim?_entries (hb : s.blocks layout = .ok (Dictionary.ofList (s.entries found))) :
    Filling.claim? (Dictionary.ofList (s.entries found)) (Dictionary.ofList (s.entries claims)) x =
      s.source? found claims x := by
  unfold source?
  have hmem {name : String} : (name, x) ∈ Dictionary.ofList (s.entries found) ↔ s.lastOf? found name = some x := by
    rw [← Dictionary.get?_eq_some_iff (nodup_blocks hb), get?_entries]
  split
  · next hl => rw [Filling.claim?_of_mem (nodup_blocks_nodes hb) (hmem.2 hl), get?_entries]
  · next hl =>
    refine Option.eq_none_iff_forall_ne_some.2 fun source hs => hl ?_
    obtain ⟨name, hn, -⟩ := Filling.exists_of_claim? hs
    rw [(mem_of_lastOf? (hmem.1 hn)).2]
    exact hmem.1 hn

/-- What remains of the template begins with the first name that the layout lacks, and its last block. -/
theorem head?_unclaimed (ho : s.blocks template = .ok (Dictionary.ofList (s.entries claims))) :
    ((Dictionary.ofList (s.entries claims)).filter fun e => !(Dictionary.ofList (s.entries found)).has e.1).head? =
      (s.firstUnmatched? found claims).bind fun x =>
        (s.lastOf? claims (s.head x).label).map fun y => ((s.head x).label, y) := by
  set table := Dictionary.ofList (s.entries claims) with htable
  have hkeys : (table.find? fun e => !(Dictionary.ofList (s.entries found)).has e.1).map Prod.fst =
      (s.firstUnmatched? found claims).map fun x => (s.head x).label := by
    have hfind := Dictionary.find?_keys_ofList (fun name => !decide (name ∈ s.labels found)) (s.entries claims)
    rw [← htable, keys_entries, Dictionary.keys, List.find?_map, labels.eq_1 s claims, List.find?_map] at hfind
    simpa only [Function.comp_def, has_entries, firstUnmatched?, decide_not] using hfind
  rw [List.head?_filter]
  cases hf : table.find? fun e => !(Dictionary.ofList (s.entries found)).has e.1 with
  | none =>
    rw [hf, Option.map_none] at hkeys
    rw [Option.map_eq_none_iff.1 hkeys.symm]
    rfl
  | some e =>
    rw [hf, Option.map_some] at hkeys
    obtain ⟨x, hx, hname⟩ := Option.map_eq_some_iff.1 hkeys.symm
    have hlast : s.lastOf? claims e.1 = some e.2 := by
      rw [← get?_entries, Dictionary.get?_eq_some_iff (nodup_blocks ho)]
      exact List.mem_of_find?_eq_some hf
    rw [hx, Option.bind_some, hname, hlast, Option.map_some]

/-! ### Filling -/

/-- The blocks that a layout and a template have in common are filled, all at once, and nothing else is changed. -/
structure FillsCommon (s : Store) (found claims : List NodeId) (s' : Store) : Prop where
  size : s'.size = s.size
  head : ∀ x, s'.head x = s.head x
  content? : ∀ x, s'.content? x = match s.source? found claims x with
    | some source => some ((BlockType.ofHead (s.head source)).combine (s.content source) (s.content x))
    | none => s.content? x

theorem fillsCommon_of_filled {f g : Filling} (hf : f.store = s)
    (hb : s.blocks layout = .ok (Dictionary.ofList (s.entries found))) (hlt : ∀ x ∈ found, x < s.size)
    (hc : ∀ x, Filling.claim? (Dictionary.ofList (s.entries found)) f.unclaimed x =
      Filling.claim? (Dictionary.ofList (s.entries found)) (Dictionary.ofList (s.entries claims)) x)
    (h : f.Filled (Dictionary.ofList (s.entries found)) g) : s.FillsCommon found claims g.store := by
  subst hf
  refine ⟨h.size, h.head, fun x => ?_⟩
  by_cases hx : x < f.store.size
  · have hcontent := h.content? x hx
    rw [hc, claim?_entries hb] at hcontent
    exact hcontent
  · have hs : f.store.source? found claims x = none := if_neg fun hl => hx (hlt x (mem_of_lastOf? hl).1)
    rw [hs, content?_of_size_le (not_lt.1 hx), content?_of_size_le (h.size.trans_le (not_lt.1 hx))]

theorem FillsCommon.unique {s₁ s₂ : Store} (h₁ : s.FillsCommon found claims s₁)
    (h₂ : s.FillsCommon found claims s₂) : s₁ = s₂ :=
  ext_cells (h₁.size.trans h₂.size.symm) (fun x => (h₁.head x).trans (h₂.head x).symm)
    fun x => (h₁.content? x).trans (h₂.content? x).symm

/-! ### Merging -/

/-- A block without a name can be reached from one of two trees. -/
def HasUnlabelled (s : Store) (layout template : List NodeId) : Prop :=
  ∃ x, (s.Reaches layout x ∨ s.Reaches template x) ∧ (s.head x).isBlock ∧ (s.head x).isLabelled = false

/-- The template has a block of a name that no block of the layout has. -/
def HasUnmatched (s : Store) (layout template : List NodeId) : Prop :=
  ∃ x, s.Reaches template x ∧ (s.head x).isBlock ∧
    ∀ y, s.Reaches layout y → (s.head y).isBlock → (s.head y).label ≠ (s.head x).label

theorem firstUnlabelled?_eq_none (hv : s.Visits layout found) (hv' : s.Visits template claims) :
    s.firstUnlabelled? (found ++ claims) = none ↔ ¬ s.HasUnlabelled layout template := by
  simp only [firstUnlabelled?, List.find?_eq_none, List.mem_append, hv.mem_iff, hv'.mem_iff, HasUnlabelled,
    Bool.not_eq_true', Bool.not_eq_false, ← or_and_right, not_exists, not_and, and_imp]

theorem firstUnmatched?_eq_none (hv : s.Visits layout found) (hv' : s.Visits template claims) :
    s.firstUnmatched? found claims = none ↔ ¬ s.HasUnmatched layout template := by
  simp only [firstUnmatched?, List.find?_eq_none, mem_labels, hv.mem_iff, hv'.mem_iff, HasUnmatched,
    decide_eq_true_eq, not_not, not_exists, not_and, not_forall, and_imp, exists_prop, and_assoc]

theorem merge_of_unlabelled (hb : s.blocks layout = match s.firstUnlabelled? found with
      | some x => .error (s.head x).location
      | none => .ok (Dictionary.ofList (s.entries found)))
    (ho : s.blocks template = match s.firstUnlabelled? claims with
      | some x => .error (s.head x).location
      | none => .ok (Dictionary.ofList (s.entries claims)))
    (hx : s.firstUnlabelled? (found ++ claims) = some x) :
    s.merge layout template = { store := s, issue? := some (.missingBlockName (some (s.head x).location)) } := by
  rw [firstUnlabelled?, List.find?_append, Option.or_eq_some_iff] at hx
  rcases hx with hx | ⟨hn, hx⟩
  · rw [merge, hb, firstUnlabelled?, hx]
  · rw [merge, hb, ho, firstUnlabelled?, firstUnlabelled?, hn, hx]

section

variable (hb : s.blocks layout = .ok (Dictionary.ofList (s.entries found)))
  (ho : s.blocks template = .ok (Dictionary.ofList (s.entries claims)))
  (hd : ∀ x, s.Within layout x → ¬ s.Within template x)
include hb ho hd

theorem issue?_merge_of_blocks : (s.merge layout template).issue? =
    (s.firstUnmatched? found claims).bind fun x =>
      (s.lastOf? claims (s.head x).label).map fun y =>
        .unmatchedBlock (s.head x).label (some (s.head y).location) := by
  have hf := filled_of_blocks hb fun e he hx => hd e.2 hx (mem_blocks ho he).1
  rw [merge_of_blocks hb ho]
  simp only [hf.unclaimed, hf.head, head?_unclaimed ho, Option.map_bind, Function.comp_def, Option.map_map]

theorem fillsCommon_merge_of_blocks (hlt : ∀ x ∈ found, x < s.size) :
    s.FillsCommon found claims (s.merge layout template).store := by
  rw [merge_of_blocks hb ho]
  have hf := filled_of_blocks hb fun e he hx => hd e.2 hx (mem_blocks ho he).1
  exact fillsCommon_of_filled rfl hb hlt (fun _ => rfl) hf

/-- The names in common alone are all filled, and with the same result. -/
theorem fillAll_in_common (hlt : ∀ x ∈ found, x < s.size) :
    let blocks := Dictionary.ofList (s.entries found)
    let f := Filling.fillAll
      { store := s, unclaimed := (Dictionary.ofList (s.entries claims)).filter fun e => blocks.has e.1 } blocks
    f.store = (s.merge layout template).store ∧ f.unclaimed = [] := by
  intro blocks f
  have hf : Filling.Filled _ blocks f := filled_of_blocks hb fun e he hx =>
    hd e.2 hx (mem_blocks ho (List.mem_filter.1 he).1).1
  constructor
  · have hfills := fillsCommon_of_filled rfl hb hlt (fun _ => Filling.claim?_filter) hf
    exact hfills.unique (fillsCommon_merge_of_blocks hb ho hd hlt)
  · rw [hf.unclaimed, List.filter_filter, List.filter_eq_nil_iff]
    simp [blocks]

end

/-- How a merge of two trees without cycles that have no node in common ends. A block without a name that can be
reached through tags, in either of them, stops it before anything has changed: the first one is reported that is met
when the layout is visited and the template after it. Otherwise, a name of the template that the layout lacks is
reported: the first one that the template's visit meets, at the place of the block that it meets last under it. By then
the names in common have been filled, just as they are when the template's table has no other names. In all other
cases there is no issue. -/
theorem merge_failures (hl : s.Acyclic layout) (ht : s.Acyclic template)
    (hd : ∀ x, s.Within layout x → ¬ s.Within template x) :
    ∃ found claims, s.Visits layout found ∧ s.Visits template claims ∧
      let m := s.merge layout template
      ((∃ l, m.issue? = some (.missingBlockName l)) ↔ s.HasUnlabelled layout template) ∧
      ((∃ name l, m.issue? = some (.unmatchedBlock name l)) ↔
        ¬ s.HasUnlabelled layout template ∧ s.HasUnmatched layout template) ∧
      (m.issue? = none ↔ ¬ s.HasUnlabelled layout template ∧ ¬ s.HasUnmatched layout template) ∧
      (∀ l, m.issue? = some (.missingBlockName l) →
        m.store = s ∧ ∃ x, s.firstUnlabelled? (found ++ claims) = some x ∧ l = some (s.head x).location) ∧
      ∀ name l, m.issue? = some (.unmatchedBlock name l) →
        (∃ x, s.firstUnmatched? found claims = some x ∧ name = (s.head x).label) ∧
        (∃ y, s.lastOf? claims name = some y ∧ l = some (s.head y).location) ∧
        s.FillsCommon found claims m.store ∧
        ∃ blocks overrides, s.blocks layout = .ok blocks ∧ s.blocks template = .ok overrides ∧
          let f := Filling.fillAll { store := s, unclaimed := overrides.filter fun e => blocks.has e.1 } blocks
          f.store = m.store ∧ f.unclaimed = [] := by
  obtain ⟨found, hv, hb⟩ := exists_visits hl
  obtain ⟨claims, hv', ho⟩ := exists_visits ht
  refine ⟨found, claims, hv, hv', ?_⟩
  intro m
  have hunlabelled := firstUnlabelled?_eq_none hv hv'
  have hunmatched := firstUnmatched?_eq_none hv hv'
  cases hx : s.firstUnlabelled? (found ++ claims) with
  | some x =>
    have hm : m = { store := s, issue? := some (.missingBlockName (some (s.head x).location)) } :=
      merge_of_unlabelled hb ho hx
    have hU : s.HasUnlabelled layout template := by simpa [hx] using hunlabelled
    simp [hm, hU]
  | none =>
    have hU : ¬ s.HasUnlabelled layout template := hunlabelled.1 hx
    have hn : s.firstUnlabelled? found = none ∧ s.firstUnlabelled? claims = none := by
      rwa [firstUnlabelled?, List.find?_append, Option.or_eq_none_iff] at hx
    rw [hn.1] at hb
    rw [hn.2] at ho
    have hissue : m.issue? = _ := issue?_merge_of_blocks hb ho hd
    cases hy : s.firstUnmatched? found claims with
    | none =>
      rw [hy, Option.bind_none] at hissue
      simp [hissue, hU, hunmatched.1 hy]
    | some y =>
      obtain ⟨z, hz⟩ := exists_lastOf? (List.mem_of_find?_eq_some hy)
      have hM : s.HasUnmatched layout template := by simpa [hy] using hunmatched
      have hlt : ∀ x ∈ found, x < s.size := fun x hx => hl.lt_size x (hv.mem_iff.1 hx).1.within
      have hfills : s.FillsCommon found claims m.store := fillsCommon_merge_of_blocks hb ho hd hlt
      rw [hy, Option.bind_some, hz, Option.map_some] at hissue
      simp only [hissue]
      refine ⟨by simp [hU], by simp [hU, hM], by simp [hM], by simp, ?_⟩
      rintro name l ⟨⟩
      exact ⟨⟨y, rfl, rfl⟩, ⟨z, hz, rfl⟩, hfills, _, _, hb, ho, fillAll_in_common hb ho hd hlt⟩

/-- The first block `b` of the template lies in its block `a`, which the layout has; the last one is reported. -/
theorem merge_failures_unmatched :
    let named (name : String) (line : Int) := (Markup.tag blockTag [("name", name)] none { line }).head
    let s : Store := ⟨#[⟨(Markup.text "old").head, none⟩, ⟨named "a" 1, some [0]⟩, ⟨named "b" 2, none⟩,
      ⟨(Markup.text "new").head, none⟩, ⟨named "a" 3, some [3, 2]⟩, ⟨named "b" 4, some []⟩]⟩
    let m := s.merge [1] [4, 5]
    s.Acyclic [1] ∧ s.Acyclic [4, 5] ∧ (∀ x, s.Within [1] x → ¬ s.Within [4, 5] x) ∧
    m.issue? = some (.unmatchedBlock "b" (some { line := 4 })) ∧ s.FillsCommon [1] [2, 4, 5] m.store ∧
    m.store.content? 1 = some [3, 2] := by
  intro named s m
  have hs : s.Sound := sound_of_older (by decide +kernel)
  have hl : s.Acyclic [1] := hs.acyclic_of_lt (by decide +kernel)
  have ht : s.Acyclic [4, 5] := hs.acyclic_of_lt (by decide +kernel)
  have hd : ∀ x, s.Within [1] x → ¬ s.Within [4, 5] x := by
    intro x hx hx'
    have apart : ∀ x ∈ [0, 1], x ∉ [2, 3, 4, 5] := by decide
    apply apart x
    · exact hx.of_closed (P := (· ∈ [0, 1])) (by decide +kernel) (by decide +kernel)
    · exact hx'.of_closed (P := (· ∈ [2, 3, 4, 5])) (by decide +kernel) (by decide +kernel)
  have v₀ : s.Visits [0] ([] ++ [] ++ []) := .cons .nil .nil
  have v₁ : s.Visits [1] ([] ++ [1] ++ []) := .cons v₀ .nil
  have v₂ : s.Visits [3, 2] ([] ++ [] ++ ([] ++ [2] ++ [])) := .cons .nil (.cons .nil .nil)
  have v₃ : s.Visits [4, 5] ([2] ++ [4] ++ ([] ++ [5] ++ [])) := .cons v₂ (.cons .nil .nil)
  obtain ⟨found, claims, hv, hv', -, -, -, -, hu⟩ := merge_failures hl ht hd
  cases hv.unique v₁
  cases hv'.unique v₃
  have hm : m.issue? = some (.unmatchedBlock "b" (some { line := 4 })) := rfl
  obtain ⟨-, -, hfills, -⟩ := hu _ _ hm
  exact ⟨hl, ht, hd, hm, hfills, hfills.content? 1⟩

end Store

end LayoutInheritance
