import LayoutInheritance.Proofs.Block.Unplaced
import LayoutInheritance.Proofs.Inheritance.Overrides
import LayoutInheritance.Proofs.Inheritance.Trail

/-! Strays. Inside an element that extends a layout and outside of its blocks, a node that neither is a block or such an
element nor has one in it is looked at by nobody: it is resolved to itself, and then dropped. So two documents that
differ in strays come to the same, and ask for the same on the way. -/

namespace LayoutInheritance

open Markup (unplaced unplacedAll unplacedHead visitedAll SameBlocks)

/-! ### Outcomes apart from places -/

@[simp] theorem Head.isExtends_unplaced (h : Head Markup) : (unplacedHead h).isExtends = h.isExtends :=
  h.isTagNamed_unplaced extendsTag

/-- The failure with its location forgotten. -/
def Failure.unplaced : Failure → Failure
  | issue i => issue i.unplaced
  | e => e

/-- What is looked at of the nodes of a document: inside an element that extends a layout, the blocks alone. -/
def seen (inside : Bool) (ms : List Markup) : List Markup :=
  if inside then visitedAll ms else ms

/-- Both fail, and the failures differ in the location alone, or both come to documents, and what is looked at of these
differs in locations alone. -/
inductive Alike (inside : Bool) : (x x' : Except Failure (List Markup)) → Prop
  | failed {e e'} : e.unplaced = e'.unplaced → Alike inside (.error e) (.error e')
  | resolved {ms ms'} : unplacedAll (seen inside ms) = unplacedAll (seen inside ms') →
      Alike inside (.ok ms) (.ok ms')

section

variable {inside : Bool} {x x' y y' : Except Failure (List Markup)} {ms ms' : List Markup}

theorem seen_append (inside : Bool) (as bs : List Markup) : seen inside (as ++ bs) = seen inside as ++ seen inside bs := by
  cases inside with
  | false => rfl
  | true => exact Markup.visitedAll_append as bs

theorem seen_of_unplaced (h : unplacedAll ms = unplacedAll ms') (inside : Bool) :
    unplacedAll (seen inside ms) = unplacedAll (seen inside ms') := by
  cases inside with
  | false => exact h
  | true =>
    change unplacedAll (visitedAll ms) = unplacedAll (visitedAll ms')
    rw [← Markup.visitedAll_unplaced, h, Markup.visitedAll_unplaced]

namespace Alike

theorem isOk (h : Alike inside x x') : x.isOk = x'.isOk := by
  cases h <;> rfl

theorem symm (h : Alike inside x x') : Alike inside x' x := by
  cases h with
  | failed he => exact .failed he.symm
  | resolved hs => exact .resolved hs.symm

theorem of_unplaced (h : Alike false x x') : Alike inside x x' := by
  cases h with
  | failed he => exact .failed he
  | resolved hms => exact .resolved (seen_of_unplaced hms inside)

/-- One list of nodes after the other. -/
theorem append (hx : Alike inside x x') (hy : Alike inside y y') :
    Alike inside (do let here ← x; let after ← y; return here ++ after)
      (do let here ← x'; let after ← y'; return here ++ after) := by
  cases hx with
  | failed he => exact .failed he
  | resolved hhere =>
    cases hy with
    | failed he => exact .failed he
    | resolved hafter =>
      refine .resolved ?_
      rw [seen_append, seen_append, Markup.unplacedAll_append, Markup.unplacedAll_append, hhere, hafter]

end Alike

/-! ### Merging -/

theorem merged_eq (layout : List Outline) (template : List Markup) : merged layout template =
    match Markup.issue? (Outline.markupAll layout) template with
    | some issue => .error (.issue issue)
    | none => .ok (substitution layout template) := by
  unfold merged Markup.issue?
  cases (Markup.merge (Outline.markupAll layout) template).2 <;> rfl

theorem congruence_unplaced : Markup.Congruence fun m m' => m.unplaced = m'.unplaced where
  leaf _ := rfl
  branch _ _ _ hc := by rw [unplaced, unplaced, Markup.forall₂_unplaced.1 hc]

/-- The last blocks of a name fill a layout alike. -/
theorem fillAlike_of_sameBlocks (h : SameBlocks ms ms') (name : String) :
    Option.Rel (Markup.FillAlike fun m m' => m.unplaced = m'.unplaced) (Markup.last? name ms) (Markup.last? name ms') := by
  have hlast := h.last? name
  cases hb : Markup.last? name ms with
  | none =>
    rw [hb] at hlast
    rw [Option.map_eq_none_iff.1 hlast.symm]
    exact .none
  | some b =>
    rw [hb] at hlast
    obtain ⟨b', hb', hsame⟩ := Option.map_eq_some_iff.1 hlast.symm
    rw [hb']
    refine .some ⟨?_, Markup.forall₂_unplaced.2 ?_⟩
    · rw [← Head.ofHead_unplaced, ← Markup.head_unplaced, ← hsame, Markup.head_unplaced, Head.ofHead_unplaced]
    · rw [← Markup.content_unplaced, ← hsame, Markup.content_unplaced]

/-- Templates with the same blocks are merged alike. -/
theorem merged_alike (layout : List Outline) (h : SameBlocks ms ms') : Alike false (merged layout ms) (merged layout ms') := by
  have hissue := h.issue? (Outline.markupAll layout)
  rw [merged_eq, merged_eq]
  cases hi : Markup.issue? (Outline.markupAll layout) ms with
  | none =>
    rw [hi] at hissue
    rw [Option.map_eq_none_iff.1 hissue.symm]
    exact .resolved (Markup.forall₂_unplaced.1 (substitution_rel congruence_unplaced (fillAlike_of_sameBlocks h) layout))
  | some i =>
    rw [hi] at hissue
    obtain ⟨i', hi', hsame⟩ := Option.map_eq_some_iff.1 hissue.symm
    rw [hi']
    exact .failed (congrArg Failure.issue hsame.symm)

end

/-! ### Documents that differ in strays -/

namespace Markup

/-- Neither the node nor anything in it is a block or extends a layout. -/
def Stray (m : Markup) : Prop :=
  ∀ n ∈ m.nodes, n.head.isBlock = false ∧ n.head.isExtends = false

instance (m : Markup) : Decidable m.Stray :=
  inferInstanceAs (Decidable (∀ n ∈ m.nodes, _))

/-- Documents that differ in locations, and in strays inside elements that extend a layout and outside of their blocks:
these have been added, taken away, or both and so been moved. An element that extends a layout need not have a content
on both sides. -/
inductive Strayed : (inside : Bool) → (ms ms' : List Markup) → Prop
  | nil {inside : Bool} : Strayed inside [] []
  | added {m ms ms'} : m.Stray → Strayed true ms ms' → Strayed true ms (m :: ms')
  | removed {m ms ms'} : m.Stray → Strayed true ms ms' → Strayed true (m :: ms) ms'
  | kept {inside : Bool} {m m' : Markup} {ms ms' : List Markup} : unplacedHead m.head = unplacedHead m'.head →
      (m.head.isExtends ∨ m.content?.isSome = m'.content?.isSome) →
      Strayed (m.head.isExtends || inside && !m.head.isBlock) m.content m'.content → Strayed inside ms ms' →
      Strayed inside (m :: ms) (m' :: ms')

end Markup

open Markup (Stray Strayed)

mutual

theorem visited_of_stray : ∀ m : Markup, m.Stray → m.visited = []
  | .leaf h, hm => by
    have hb : h.isBlock = false := (hm _ (List.mem_singleton_self _)).1
    rw [Markup.visited, hb]
    rfl
  | .branch h content, hm => by
    have hb : h.isBlock = false := (hm _ (List.mem_cons_self ..)).1
    rw [Markup.visited, hb, visitedAll_of_stray content fun n hn => hm n (List.mem_cons_of_mem _ hn), ite_self]
    rfl

theorem visitedAll_of_stray : ∀ ms : List Markup,
    (∀ n ∈ Markup.nodesAll ms, n.head.isBlock = false ∧ n.head.isExtends = false) → visitedAll ms = []
  | [], _ => rfl
  | m :: ms, hm => by
    rw [visitedAll, visited_of_stray m fun n hn => hm n (List.mem_append_left _ hn),
      visitedAll_of_stray ms fun n hn => hm n (List.mem_append_right _ hn)]
    rfl

end

/-- A stray is not looked at. -/
theorem Alike.stray {x x' : Except Failure (List Markup)} {m : Markup} (hm : m.Stray) (h : Alike true x x') :
    Alike true x (do let after ← x'; return m :: after) := by
  cases h with
  | failed he => exact .failed he
  | @resolved ms ms' hs =>
    have hseen : seen true (m :: ms') = seen true ms' := by
      change visitedAll (m :: ms') = visitedAll ms'
      rw [visitedAll, visited_of_stray m hm, List.nil_append]
    exact .resolved (by rw [hs, hseen])

namespace Resolver

variable {c : Resolver} {document : Option String} {chain : List String}

mutual

/-- A stray is resolved to itself, and nothing is done for it. -/
theorem meaning_of_stray : ∀ m : Markup, m.Stray →
    c.meaning document chain m = .ok [m] ∧ c.trail document chain m = []
  | .leaf h, hm => by
    have hx := Bool.eq_false_iff.1 (hm _ (List.mem_singleton_self _)).2
    rw [meaning, trail]
    exact ⟨if_neg hx, if_neg hx⟩
  | .branch h content, hm => by
    have hx := Bool.eq_false_iff.1 (hm _ (List.mem_cons_self ..)).2
    obtain ⟨hmeaning, htrail⟩ := meaningAll_of_stray content fun n hn => hm n (List.mem_cons_of_mem _ hn)
    rw [meaning, trail, hmeaning, htrail]
    exact ⟨if_neg hx, if_neg hx⟩

theorem meaningAll_of_stray : ∀ ms : List Markup,
    (∀ n ∈ Markup.nodesAll ms, n.head.isBlock = false ∧ n.head.isExtends = false) →
      c.meaningAll document chain ms = .ok ms ∧ c.trailAll document chain ms = []
  | [], _ => ⟨rfl, rfl⟩
  | m :: ms, hm => by
    obtain ⟨hfirst, htrail⟩ := meaning_of_stray m fun n hn => hm n (List.mem_append_left _ hn)
    obtain ⟨hrest, htrail'⟩ := meaningAll_of_stray ms fun n hn => hm n (List.mem_append_right _ hn)
    rw [meaningAll, trailAll, hfirst, hrest, htrail, htrail', ite_self]
    exact ⟨rfl, rfl⟩

end

theorem meaningAll_cons_stray {m : Markup} (hm : m.Stray) (ms : List Markup) :
    c.meaningAll document chain (m :: ms) = (do
      let after ← c.meaningAll document chain ms
      return m :: after) := by
  rw [meaningAll, (meaning_of_stray m hm).1]
  rfl

theorem trailAll_cons_stray {m : Markup} (hm : m.Stray) (ms : List Markup) :
    c.trailAll document chain (m :: ms) = c.trailAll document chain ms := by
  rw [trailAll, (meaning_of_stray m hm).1, (meaning_of_stray m hm).2]
  rfl

/-! ### Single nodes -/

section

variable {h h' : Head Markup} {content content' : List Markup}

theorem isExtends_eq (hh : unplacedHead h = unplacedHead h') : h.isExtends = h'.isExtends := by
  rw [← h.isExtends_unplaced, hh, h'.isExtends_unplaced]

theorem attribute?_eq (hh : unplacedHead h = unplacedHead h') (key : String) : h.attribute? key = h'.attribute? key := by
  rw [← h.attribute?_unplaced, hh, h'.attribute?_unplaced]

/-- An element that extends a layout sees nothing of its content but the blocks. -/
theorem expansion_alike {t t' : Except Failure (List Markup)} (hh : unplacedHead h = unplacedHead h')
    (ht : Alike true t t') : Alike false (c.expansion document chain h t) (c.expansion document chain h' t') := by
  rw [expansion, expansion, attribute?_eq hh]
  cases h'.attribute? "src" with
  | none => exact .failed rfl
  | some source =>
    simp only
    split
    · exact .failed rfl
    · cases c.loaded document chain (c.layoutPath source) with
      | error e => exact .failed rfl
      | ok layout =>
        cases ht with
        | failed he => exact .failed he
        | resolved hs => exact merged_alike layout hs

theorem expansionTrail_eq (hh : unplacedHead h = unplacedHead h') (events : List Event) :
    c.expansionTrail document chain h events = c.expansionTrail document chain h' events := by
  rw [expansionTrail, expansionTrail, attribute?_eq hh]

theorem seen_branch {inside : Bool} (hh : unplacedHead h = unplacedHead h')
    (hc : unplacedAll (seen (inside && !h.isBlock) content) = unplacedAll (seen (inside && !h.isBlock) content')) :
    unplacedAll (seen inside [.branch h content]) = unplacedAll (seen inside [.branch h' content']) := by
  have hplain (hc : unplacedAll content = unplacedAll content') :
      unplacedAll [.branch h content] = unplacedAll [.branch h' content'] := by
    have hm : unplaced (.branch h content) = unplaced (.branch h' content') := by rw [unplaced, unplaced, hh, hc]
    exact congrArg (fun m => [m]) hm
  cases inside with
  | false => exact hplain hc
  | true =>
    cases hb : h.isBlock with
    | true =>
      rw [hb] at hc
      exact seen_of_unplaced (hplain hc) true
    | false =>
      rw [hb] at hc
      have hb' : h'.isBlock = false := by rw [← h'.isBlock_unplaced, ← hh, h.isBlock_unplaced, hb]
      have htag : h.isTag = h'.isTag := by rw [← h.isTag_unplaced, hh, h'.isTag_unplaced]
      change unplacedAll (visitedAll [.branch h content]) = unplacedAll (visitedAll [.branch h' content'])
      rw [visitedAll, visitedAll, Markup.visited, hb, visitedAll, visitedAll, Markup.visited, hb', htag]
      cases h'.isTag with
      | false => rfl
      | true =>
        simp only [if_true, Bool.false_eq_true, if_false, List.append_nil]
        exact hc

theorem meaning_leaf (hx : h.isExtends = false) : c.meaning document chain (.leaf h) = .ok [.leaf h] := by
  rw [meaning, if_neg (Bool.eq_false_iff.1 hx)]

theorem meaning_of_extends {m : Markup} (hx : m.head.isExtends) : c.meaning document chain m =
    c.expansion document chain m.head (c.meaningAll document chain m.content) := by
  cases m with
  | leaf h =>
    rw [meaning]
    exact if_pos hx
  | branch h content =>
    rw [meaning]
    exact if_pos hx

theorem meaning_branch (hx : h.isExtends = false) : c.meaning document chain (.branch h content) = (do
    let content ← c.meaningAll document chain content
    return [.branch h content]) := by
  rw [meaning, if_neg (Bool.eq_false_iff.1 hx)]

end

section

variable {inside : Bool} {m m' : Markup}

/-- A node that keeps its place. -/
theorem kept_alike (hx : m.head.isExtends = false) (hh : unplacedHead m.head = unplacedHead m'.head)
    (hc : m.content?.isSome = m'.content?.isSome)
    (ht : Alike (inside && !m.head.isBlock) (c.meaningAll document chain m.content) (c.meaningAll document chain m'.content)) :
    Alike inside (c.meaning document chain m) (c.meaning document chain m') := by
  have hx' := (isExtends_eq hh).symm.trans hx
  cases m with
  | leaf h =>
    cases m' with
    | branch h' content' => cases hc
    | leaf h' =>
      rw [meaning_leaf (h := h) hx, meaning_leaf (h := h') hx']
      have hm : unplacedAll [.leaf h] = unplacedAll [.leaf h'] := congrArg (fun h => [Markup.leaf h]) hh
      exact .resolved (seen_of_unplaced hm inside)
  | branch h content =>
    cases m' with
    | leaf h' => cases hc
    | branch h' content' =>
      rw [meaning_branch (h := h) hx, meaning_branch (h := h') hx']
      change Alike (inside && !h.isBlock) (c.meaningAll document chain content) (c.meaningAll document chain content') at ht
      generalize c.meaningAll document chain content = x, c.meaningAll document chain content' = x' at ht
      cases ht with
      | failed he => exact .failed he
      | resolved hs => exact .resolved (seen_branch hh hs)

/-- An element that extends a layout, or a node that keeps its place, is resolved alike when its content is. -/
theorem meaning_alike (hh : unplacedHead m.head = unplacedHead m'.head)
    (hc : m.head.isExtends ∨ m.content?.isSome = m'.content?.isSome)
    (ht : Alike (m.head.isExtends || inside && !m.head.isBlock) (c.meaningAll document chain m.content)
      (c.meaningAll document chain m'.content)) :
    Alike inside (c.meaning document chain m) (c.meaning document chain m') := by
  cases hx : m.head.isExtends with
  | false =>
    rw [hx] at hc ht
    exact kept_alike hx hh (hc.resolve_left Bool.false_ne_true) ht
  | true =>
    rw [hx] at ht
    rw [meaning_of_extends hx, meaning_of_extends ((isExtends_eq hh).symm.trans hx)]
    exact (expansion_alike hh ht).of_unplaced

theorem trail_eq_of_content (hh : unplacedHead m.head = unplacedHead m'.head)
    (ht : c.trailAll document chain m.content = c.trailAll document chain m'.content) :
    c.trail document chain m = c.trail document chain m' := by
  rw [trail_eq, trail_eq, isExtends_eq hh, ht, expansionTrail_eq hh]

end

/-! ### Documents -/

/-- Documents that differ in strays come to the same, and the same is done for them. -/
theorem alike_of_strayed (c : Resolver) (document : Option String) (chain : List String) {inside : Bool}
    {ms ms' : List Markup} (h : Strayed inside ms ms') :
    Alike inside (c.meaningAll document chain ms) (c.meaningAll document chain ms') ∧
      c.trailAll document chain ms = c.trailAll document chain ms' := by
  induction h with
  | nil => exact ⟨.resolved rfl, rfl⟩
  | added hm _ ih =>
    rw [meaningAll_cons_stray hm, trailAll_cons_stray hm]
    exact ⟨ih.1.stray hm, ih.2⟩
  | removed hm _ ih =>
    rw [meaningAll_cons_stray hm, trailAll_cons_stray hm]
    exact ⟨(ih.1.symm.stray hm).symm, ih.2⟩
  | kept hh hc _ _ ih₁ ih₂ =>
    have hmeaning := meaning_alike hh hc ih₁.1
    refine ⟨?_, ?_⟩
    · rw [meaningAll, meaningAll]
      exact hmeaning.append ih₂.1
    · rw [trailAll, trailAll, trail_eq_of_content hh ih₁.2, hmeaning.isOk, ih₂.2]

/-! ### Runs -/

/-- A document that is read and resolved comes to what it means, and what is asked for and recorded is what is done for
it. -/
theorem run_parse_resolve (c : Resolver) (document : Option String) {text : String} {name : Option String}
    {ms : List Markup} {r : Run} (hs : r.store.Sound)
    (hp : Markup.parse text name = .ok ms) :
    let ended := (Step.parse text name >>= c.resolve document).run r
    let done := Run.note {} (c.trailAll document r.chain ms)
    ended.1.map ended.2.store.document = c.meaningAll document r.chain ms ∧
      r.Gains ended.2 done.loads (name :: done.parses) done.dependencies := by
  rw [Step.run_bind]
  rcases hrun : (Step.parse text name).run r with ⟨e | tree, r₁⟩
  · rw [Markup.parse] at hp
    rw [Step.run_parse, hp] at hrun
    cases hrun
  · obtain ⟨_, os, hp', rfl, rfl, hst, hsound⟩ := parse_stored hrun
    cases hp.symm.trans hp'
    have hresolves : c.Resolves (.tree document (os.map Outline.id)) r₁ _ _ := follows_resolve hst.holds (hsound hs)
    have htrail := hresolves.trail document rfl os rfl hst.holds (hsound hs)
    rw [parse_chain hrun] at htrail
    refine ⟨?_, (gains_parse hrun).trans (Run.gains_of_trail htrail)⟩
    rw [← parse_chain hrun]
    exact hresolves.document_eq hst.holds (hsound hs)

end Resolver

/-- Only the overrides of a template matter. When two templates have blocks of the same names, in any order, and under
each name the same type and the same content nodes, then merging either of them into a layout apart from them leaves
the same store behind, and fails in both cases or in none, for the same kind of reason. Into a copy of the layout, in
whatever store, a template is merged to the same document when the contents under its names show the same. So a document
may be read with or without strays inside its elements that extend a layout, or with others: it is resolved to the same
or fails for the same reason, apart from locations, and the same is loaded, parsed and recorded for it. -/
theorem only_overrides_matter :
    (∀ (s : Store) (layout template template' : List NodeId), s.SameOverrides s Eq template template' →
      (∀ x, s.Within layout x → ¬ s.Within template x) → (∀ x, s.Within layout x → ¬ s.Within template' x) →
        (s.merge layout template').issue?.map Issue.code = (s.merge layout template).issue?.map Issue.code ∧
          (s.merge layout template').store = (s.merge layout template).store) ∧
    (∀ (s s' : Store) (layout layout' template template' : List NodeId), s.Mergeable layout template →
      s'.Mergeable layout' template' → s.CopiedTo layout s' layout' →
      s.SameOverrides s' (fun ids ids' => s'.document ids' = s.document ids) template template' →
        (s'.merge layout' template').issue?.map Issue.code = (s.merge layout template).issue?.map Issue.code ∧
          ((s.merge layout template).issue? = none →
            (s'.merge layout' template').store.document layout' = (s.merge layout template).store.document layout)) ∧
    ∀ (c : Resolver) (document name : Option String) (text text' : String) (ms ms' : List Markup) (r : Run),
      r.store.Sound → Markup.parse text name = .ok ms → Markup.parse text' name = .ok ms' → Strayed false ms ms' →
        let ended := (Step.parse text name >>= c.resolve document).run r
        let ended' := (Step.parse text' name >>= c.resolve document).run r
        Alike false (ended.1.map ended.2.store.document) (ended'.1.map ended'.2.store.document) ∧
          ended'.2.loads = ended.2.loads ∧ ended'.2.parses = ended.2.parses ∧
          ended'.2.dependencies = ended.2.dependencies := by
  refine ⟨?_, ?_, ?_⟩
  · intro s layout template template' h hd hd'
    exact ⟨Store.code_of_sameOverrides rfl h hd hd', Store.store_of_sameOverrides h hd hd'⟩
  · intro s s' layout layout' template template' hm hm' hcopy h
    have hcode := Store.code_of_sameOverrides hcopy.keys_blocks h hm.apart hm'.apart
    refine ⟨hcode, fun hissue => Store.document_of_sameOverrides hm hm' h hcopy hissue ?_⟩
    rw [hissue] at hcode
    exact Option.map_eq_none_iff.1 hcode
  · intro c document name text text' ms ms' r hs hp hp' h ended ended'
    obtain ⟨hmeaning, hgains⟩ := Resolver.run_parse_resolve c document hs hp
    obtain ⟨hmeaning', hgains'⟩ := Resolver.run_parse_resolve c document hs hp'
    obtain ⟨halike, htrail⟩ := Resolver.alike_of_strayed c document r.chain h
    rw [htrail] at hgains
    refine ⟨?_, ?_, ?_, ?_⟩
    · rw [hmeaning, hmeaning']
      exact halike
    · exact hgains'.loads.trans hgains.loads.symm
    · exact hgains'.parses.trans hgains.parses.symm
    · exact hgains'.dependencies.trans hgains.dependencies.symm

/-- The blocks `a` and `b` stand in another order in the second template, one of them in a paragraph and with a type
that means the same; the layout at 8 is copied to 11. In the document a text is moved and a paragraph is added. -/
theorem only_overrides_matter_reordered :
    let block (name : String) := (Markup.tag blockTag [("name", name)]).head
    let element (name : String) := (Markup.tag name).head
    let s : Store := ⟨#[⟨(Markup.text "1").head, none⟩, ⟨block "a", some [0]⟩, ⟨block "b", none⟩, ⟨block "b", some []⟩,
      ⟨(Markup.tag blockTag [("name", "a"), ("type", "other")]).head, some [0]⟩, ⟨element "p", some [4]⟩,
      ⟨block "a", none⟩, ⟨block "b", none⟩, ⟨element "i", some [6, 7]⟩,
      ⟨block "a", none⟩, ⟨block "b", none⟩, ⟨element "i", some [9, 10]⟩]⟩
    let c := (Setting.ofTexts [("/w/a", "<i><block name=b>0</block></i>")]).resolver none
    let text := "<extends src=a>y<block name=b>1</block></extends>"
    let text' := "<extends src=a><p></p><block name=b>1</block>y</extends>"
    (s.merge [8] [1, 2]).issue? = none ∧ (s.merge [8] [3, 5]).store = (s.merge [8] [1, 2]).store ∧
      (s.merge [11] [3, 5]).store.document [11] = (s.merge [8] [1, 2]).store.document [8] ∧
      let ended := (Step.parse text none >>= c.resolve none).run {}
      let ended' := (Step.parse text' none >>= c.resolve none).run {}
      Alike false (ended.1.map ended.2.store.document) (ended'.1.map ended'.2.store.document) ∧
        ended'.2.loads = ended.2.loads ∧ ended'.2.parses = ended.2.parses ∧
        ended'.2.dependencies = ended.2.dependencies := by
  intro block element s c text text'
  have hs : s.Sound := Store.sound_of_older (by decide +kernel)
  have hm : s.Mergeable [8] [1, 2] :=
    Store.mergeable_of_outlines hs (by decide +kernel) (by decide +kernel) (by decide +kernel)
  have hm' : s.Mergeable [8] [3, 5] :=
    Store.mergeable_of_outlines hs (by decide +kernel) (by decide +kernel) (by decide +kernel)
  have hm'' : s.Mergeable [11] [3, 5] :=
    Store.mergeable_of_outlines hs (by decide +kernel) (by decide +kernel) (by decide +kernel)
  have hsame {same : List NodeId → List NodeId → Prop} (hrefl : ∀ ids, same ids ids) :
      s.SameOverrides s same [1, 2] [3, 5] := by
    have ha : BlockType.ofHead (s.head 1) = BlockType.ofHead (s.head 4) := by decide +kernel
    refine ⟨[("a", 1), ("b", 2)], [("b", 3), ("a", 4)], by decide +kernel, by decide +kernel, fun name => ?_, ?_⟩
    · simp [Dictionary.keys, or_comm]
    · intro name x x' hx hx'
      have hx := Dictionary.mem_of_get? hx
      have hx' := Dictionary.mem_of_get? hx'
      simp only [List.mem_cons, Prod.mk.injEq, List.not_mem_nil, or_false] at hx hx'
      obtain ⟨rfl, rfl⟩ | ⟨rfl, rfl⟩ := hx
      · obtain ⟨h, -⟩ | ⟨-, rfl⟩ := hx'
        · exact absurd h (by decide)
        · exact ⟨ha, hrefl _⟩
      · obtain ⟨-, rfl⟩ | ⟨h, -⟩ := hx'
        · exact ⟨rfl, hrefl _⟩
        · exact absurd h (by decide)
  have hcopy : s.CopiedTo [8] s [11] := ⟨(· + 3), fun _ _ => Nat.add_right_cancel, rfl⟩
  have hissue : (s.merge [8] [1, 2]).issue? = none := Option.isNone_iff_eq_none.1 (by decide +kernel)
  -- the two documents, with the places of their nodes
  let place (column : Int) : Location := ⟨none, 1, column⟩
  let override (column : Int) := Markup.tag "block" [("name", "b")] (some [.text "1" (place (column + 14))]) (place column)
  let document := [Markup.tag "extends" [("src", "a")] (some [.text "y" (place 16), override 17])]
  let document' := [Markup.tag "extends" [("src", "a")]
    (some [.tag "p" [] (some []) (place 16), override 23, .text "y" (place 46)])]
  have hparse : Markup.parse text none = .ok document :=
    ok_of_toOption (by decide +kernel)
  have hparse' : Markup.parse text' none = .ok document' :=
    ok_of_toOption (by decide +kernel)
  have hmoved : Strayed true [override 17] [override 23, .text "y" (place 46)] :=
    .kept rfl (.inr rfl) (.kept rfl (.inr rfl) .nil .nil) (.added (by decide +kernel) .nil)
  have hstrayed : Strayed false document document' :=
    .kept rfl (.inl rfl) (.removed (by decide +kernel) (.added (by decide +kernel) hmoved)) .nil
  exact ⟨hissue, (only_overrides_matter.1 s [8] [1, 2] [3, 5] (hsame fun _ => rfl) hm.apart hm'.apart).2,
    (only_overrides_matter.2.1 s s [8] [11] [1, 2] [3, 5] hm hm'' hcopy (hsame fun _ => rfl)).2 hissue,
    only_overrides_matter.2.2 c none none text text' document document' {} Store.sound_empty hparse hparse' hstrayed⟩

end LayoutInheritance
