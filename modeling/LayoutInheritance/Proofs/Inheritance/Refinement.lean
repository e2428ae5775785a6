import LayoutInheritance.Proofs.Block.Refinement
import LayoutInheritance.Proofs.Inheritance.Copying
import LayoutInheritance.Proofs.Inheritance.Document

/-! Resolution in place against resolution by copies. A call and its copy do the same, event by event, and
where the call comes to nodes, these hold the document that its copy comes to, each place of it in a node
of its own. Only a merge could break this, by taking one node of a template to two places, and it does not
when the blocks that it takes lie apart. -/

namespace LayoutInheritance

open Outline (ids)

namespace Resolver

open Store (Change)

variable {c : Resolver} {document : Option String}

/-- The outcome of a call and that of its copy: the same failure, or nodes that hold the same document, of
which those are old that are among `N`. -/
inductive Matches (N : List NodeId) (s s' : Store) :
    Except Failure (List NodeId) → Except Failure (List Markup) → Prop
  | error (e : Failure) : Matches N s s' (.error e) (.error e)
  | ok {os : List Outline} : s'.Holds os → (∀ x ∈ ids os, x ∈ N ∨ s.size ≤ x) →
      Matches N s s' (.ok (os.map Outline.id)) (.ok (Outline.markupAll os))

/-- A call on the nodes of `os` does what its copy does. -/
def Copies (c : Resolver) (call : Call) (r : Run) (out : Except Failure (List NodeId)) (r' : Run)
    (os : List Outline) : Prop :=
  match call with
  | .tree document _ | .node document _ =>
    ∃ out', (c.copy document r.chain (Outline.markupAll os)).run r.history = (out', r'.history) ∧
      Matches (ids os) r.store r'.store out out'
  | .layout document path =>
    ∀ l, ∃ out', (c.copyLayout document r.chain path l).run r.history = (out', r'.history) ∧
      Matches (ids os) r.store r'.store out out'

variable {r r₁ r₂ r₃ : Run} {o : Outline} {os : List Outline}

theorem copies_cons {id : NodeId} {rest here : List NodeId} {out : Except Failure (List NodeId)}
    (ho : r.store.Holds (o :: os)) (hc₁ : r.store.Change (ids [o]) r₁.store)
    (hc₂ : r₁.store.Change (ids os) r₂.store)
    (hr : r₁.chain = r.chain) (h₁ : c.Copies (.node document id) r (.ok here) r₁ [o])
    (h₂ : c.Copies (.tree document rest) r₁ out r₂ os) :
    c.Copies (.tree document (id :: rest)) r (out.map (here ++ ·)) r₂ (o :: os) := by
  obtain ⟨out₁, hrun₁, hm₁⟩ := h₁
  obtain ⟨out₂, hrun₂, hm₂⟩ := h₂
  cases hm₁ with
  | @ok os₁ held₁ old₁ =>
    rw [hr] at hrun₂
    have hrun : (c.copy document r.chain (Outline.markupAll (o :: os))).run r.history =
        (match out₂ with
          | .error e => .error e
          | .ok rest => .ok (Outline.markupAll os₁ ++ rest), r₂.history) := by
      rw [Outline.markupAll, run_copy_cons]
      simp only [Outline.markupAll] at hrun₁
      rw [hrun₁]
      simp only [hrun₂]
      cases out₂ <;> rfl
    refine ⟨_, hrun, ?_⟩
    cases hm₂ with
    | error e => exact .error e
    | @ok os₂ held₂ old₂ =>
      -- the nodes of the first result are old, or were made before the second call
      have apart₁ : ∀ x ∈ ids os₁, x ∉ ids os := by
        intro x hx hm
        rcases old₁ x hx with h | h
        · exact ho.apart x h hm
        · exact not_lt.2 h (ho.rest.lt_size hm)
      have apart₂ : ∀ x ∈ ids os₁, x ∉ ids os₂ := by
        intro x hx hm
        rcases old₂ x hm with h | h
        · exact apart₁ x hx h
        · exact not_lt.2 h (held₁.lt_size hx)
      have held : r₂.store.Holds (os₁ ++ os₂) := (hc₂.holds held₁ apart₁).append held₂ apart₂
      have old : ∀ x ∈ ids (os₁ ++ os₂), x ∈ ids (o :: os) ∨ r.store.size ≤ x := by
        intro x hx
        rw [Outline.ids_append, List.mem_append] at hx
        rw [Outline.mem_ids_cons]
        rcases hx with hx | hx
        · exact (old₁ x hx).imp_left .inl
        · exact (old₂ x hx).imp .inr hc₁.size_le.trans
      have hmatch := Matches.ok held old
      rw [List.map_append, Outline.markupAll_append] at hmatch
      exact hmatch

/-- The content of a node that keeps its place gives way to copies. -/
theorem copies_inside {id : NodeId} {tree content : List NodeId} (ho : r.store.Holds [o]) (hid : o.id = id)
    (hx : o.head.isExtends = false) (hne : o.content ≠ []) (hc : r.store.Change (ids o.content) r₁.store)
    (h : c.Copies (.tree document tree) r (.ok content) r₁ o.content) :
    c.Copies (.node document id) r (.ok [id]) { r₁ with store := r₁.store.setContent id content } [o] := by
  subst hid
  obtain ⟨out, hrun, hm⟩ := h
  cases o with
  | leaf id h => exact absurd rfl hne
  | branch id h before =>
    cases hm with
    | @ok os₁ held₁ old₁ =>
      refine ⟨.ok [.branch h (Outline.markupAll os₁)], ?_, ?_⟩
      · rw [Outline.markupAll_singleton, run_copy_kept hx, hrun]
        rfl
      · have hroot := ho.root
        have hlt : id < r₁.store.size := hroot.lt_size.trans_le hc.size_le
        have apart : id ∉ ids os₁ := by
          intro hm
          rcases old₁ id hm with h | h
          · exact ho.root_not_mem h
          · exact not_lt.2 h hroot.lt_size
        have shown : (r₁.store.setContent id (os₁.map Outline.id)).Shows (.branch id h os₁) := by
          constructor
          · rw [Store.size_setContent]
            exact hlt
          · rw [Store.head_setContent, Outline.id, hc.head id hroot.lt_size]
            exact hroot.head
          · exact Store.content?_setContent_self hlt _
        have held : (r₁.store.setContent id (os₁.map Outline.id)).Holds os₁ := by
          apply held₁.frame
          · rw [Store.size_setContent]
          · intro x _
            rw [Store.head_setContent]
          · intro x hm
            apply Store.content?_setContent_ne
            rintro rfl
            exact apart hm
        have old : ∀ x ∈ ids [.branch id h os₁], x ∈ ids [.branch id h before] ∨ r.store.size ≤ x := by
          intro x hx
          rw [Outline.mem_ids_singleton] at hx ⊢
          rcases hx with hx | hx
          · exact .inl (.inl hx)
          · exact (old₁ x hx).imp_left .inr
        exact Matches.ok (Store.Holds.node shown held apart) old

/-- An element gives way to the filled copy. -/
theorem copies_merge {id : NodeId} {tree layout template : List NodeId} {source : String}
    {out : Except Failure (List NodeId)} (ho : r.store.Holds [o]) (hx : o.head.source? = some source)
    (hc₁ : r.store.Change [] r₁.store) (hc₂ : r₁.store.Change (ids o.content) r₂.store) (hs₂ : r₂.store.Sound)
    (hr : r₁.chain = r.chain) (h₁ : c.Copies (.layout document (c.layoutPath source)) r (.ok layout) r₁ [])
    (h₂ : c.Copies (.tree document tree) (c.recorded r₁ (c.layoutPath source) document) (.ok template) r₂
      o.content)
    (hm : (Step.merge layout template).run r₂ = (out, r₃))
    (ha : Markup.MatchApart (r₂.store.document layout) (r₂.store.document template)) :
    c.Copies (.node document id) r out r₃ [o] := by
  rw [Head.source?_eq_some] at hx
  obtain ⟨out₁, hrun₁, hm₁⟩ := h₁ o.head.location
  obtain ⟨out₂, hrun₂, hm₂⟩ := h₂
  obtain ⟨-, hhistory, hstore⟩ := merge_run hm
  rw [chain_recorded, hr, history_recorded] at hrun₂
  rw [store_recorded] at hm₂
  cases hm₁ with
  | @ok os₁ held₁ old₁ =>
    cases hm₂ with
    | @ok os₂ held₂ old₂ =>
      have lt : ∀ x ∈ ids o.content, x < r.store.size := fun x hx => ho.content.lt_size hx
      -- the layout's nodes were made between the old ones and those that the template has made
      have apart : ∀ x ∈ ids os₁, x ∉ ids o.content := fun x hx hm =>
        not_le.2 (lt x hm) ((old₁ x hx).resolve_left List.not_mem_nil)
      have disjoint : ∀ x ∈ ids os₁, x ∉ ids os₂ := by
        intro x hx hm
        rcases old₂ x hm with h | h
        · exact apart x hx h
        · exact not_lt.2 h (held₁.lt_size hx)
      have held := hc₂.holds held₁ apart
      have hmerges := Store.merges held held₂ disjoint hs₂
      rw [held.document_eq, held₂.document_eq] at ha
      have hevents : Step.mergeEvents r₂.store (os₁.map Outline.id) (os₂.map Outline.id) =
          .merging (Outline.markupAll os₁) (Outline.markupAll os₂) ::
            (Markup.merge (Outline.markupAll os₁) (Outline.markupAll os₂)).1.map fun f => .merged f.1 f.2 := by
        rw [Step.mergeEvents, held.document_eq, held₂.document_eq, hmerges.filled]
      have hrun : (c.copy document r.chain (Outline.markupAll [o])).run r.history =
          ((Markup.merge (Outline.markupAll os₁) (Outline.markupAll os₂)).2.mapError Failure.issue,
            r₃.history) := by
        rw [Outline.markupAll_singleton, run_copy_extends hx.1, hx.2]
        simp only [hrun₁, hrun₂, run_fillCopy]
        rw [hhistory, hevents]
      refine ⟨_, hrun, ?_⟩
      rw [hstore]
      rw [Step.run_merge] at hm
      cases hcopy : (Markup.merge (Outline.markupAll os₁) (Outline.markupAll os₂)).2 with
      | error issue =>
        rw [hmerges.issue issue hcopy] at hm
        cases hm
        exact .error _
      | ok found =>
        obtain ⟨hnone, hresult⟩ := hmerges.result found hcopy
        obtain ⟨os', hid, rfl, held', old'⟩ := hresult ha
        rw [hnone] at hm
        cases hm
        have old : ∀ x ∈ ids os', x ∈ ids [o] ∨ r.store.size ≤ x := by
          intro x hx
          rcases old' x hx with hx | hx
          · exact .inr ((old₁ x hx).resolve_left List.not_mem_nil)
          · rw [Outline.mem_ids_singleton]
            exact (old₂ x hx).imp .inr hc₁.size_le.trans
        have hmatch := Matches.ok held' old
        rw [hid] at hmatch
        exact hmatch

/-- A layout that is loaded is resolved as its copy is. -/
theorem copies_layout {path text : String} {tree : List NodeId} {out : Except Failure (List NodeId)}
    (hp : path ∉ r.chain) (hr : c.library.read path c.encoding = .ok text)
    (hparse : (Step.parse text (some path)).run (r.note [.loading path c.encoding document]) = (.ok tree, r₁))
    (hst : r.store.Stored os r₁.store) (hd : Markup.parse text (some path) = .ok (Outline.markupAll os))
    (h : c.Copies (.tree (some path) tree) (r₁.enter path) out r₂ os) :
    ∀ l, ∃ out', (c.copyLayout document r.chain path l).run r.history =
        (out', match out with
          | .error _ => r₂.history
          | .ok _ => r₂.history ++ [.left path]) ∧
      Matches (ids []) r.store r₂.store out out' := by
  intro l
  obtain ⟨out', hrun, hm⟩ := h
  have hchain : (r₁.enter path).chain = r.chain ++ [path] := chain_enter hparse
  have hhistory : (r₁.enter path).history = r.history ++ [.loading path c.encoding document] ++
      Step.parseEvents text (some path) ++ [.entered path] := by
    rw [← Run.history_note, ← parse_history hparse]
    rfl
  rw [hchain, hhistory] at hrun
  rw [run_copyLayout hp, hr]
  simp only [hd, hrun]
  cases hm with
  | error e => exact ⟨_, rfl, .error e⟩
  | ok held old =>
    refine ⟨_, rfl, .ok held fun x hx => .inr ?_⟩
    rcases old x hx with hx | hx
    · exact hst.fresh x hx
    · exact hst.size_le.trans hx

end Resolver

namespace Run

/-- The layouts and templates of the merges so far, each as it was when its merge began. -/
def merges (r : Run) : List (List Markup × List Markup) :=
  r.history.filterMap fun
    | .merging layout template => some (layout, template)
    | _ => none

/-- In each merge so far, the blocks of the template that the layout has by name lie apart. -/
def MergesApart (r : Run) : Prop :=
  ∀ m ∈ r.merges, Markup.MatchApart m.1 m.2

instance (r : Run) : Decidable r.MergesApart :=
  inferInstanceAs (Decidable (∀ m ∈ r.merges, Markup.MatchApart m.1 m.2))

variable {r r' : Run}

theorem MergesApart.before (h : r'.MergesApart) (hr : r.history <+: r'.history) : r.MergesApart := by
  intro m hm
  exact h m ((hr.sublist.filterMap _).subset hm)

theorem MergesApart.of_mem (h : r.MergesApart) {layout template : List Markup}
    (hm : .merging layout template ∈ r.history) : Markup.MatchApart layout template :=
  h (layout, template) (List.mem_filterMap.2 ⟨_, hm, rfl⟩)

end Run

namespace Resolver

variable {c : Resolver}

/-- What is called is not in progress. -/
def Call.Unopened (chain : List String) : Call → Prop
  | layout _ path => path ∉ chain
  | _ => True

/-- Resolving in place does what resolving by copies does. -/
theorem Resolves.copies {call : Call} {r r' : Run} {out : Except Failure (List NodeId)}
    (h : c.Resolves call r out r') :
    ∀ os : List Outline, os.map Outline.id = call.roots → r.store.Holds os → r.store.Sound →
      call.Unopened r.chain → r'.MergesApart → c.Copies call r out r' os := by
  induction h with
  | nil =>
    intro os he ho _ _ _
    obtain rfl := List.map_eq_nil_iff.1 he
    exact ⟨.ok [], rfl, .ok ho fun _ h => absurd h List.not_mem_nil⟩
  | stop _ ih =>
    intro os he ho hs _ ha
    obtain ⟨o, os, rfl, rfl, -⟩ := List.map_eq_cons_iff.1 he
    obtain ⟨out, hrun, hm⟩ := ih [o] rfl ho.first hs trivial ha
    cases hm
    refine ⟨_, ?_, .error _⟩
    rw [Outline.markupAll, run_copy_cons]
    simp only [Outline.markupAll] at hrun
    rw [hrun]
  | cons h₁ h₂ ih₁ ih₂ =>
    intro os he ho hs _ ha
    obtain ⟨o, os, rfl, rfl, he'⟩ := List.map_eq_cons_iff.1 he
    obtain ⟨hc₁, hs₁, -⟩ := h₁.change [o] rfl ho.first hs
    have held := hc₁.holds_rest ho
    obtain ⟨hc₂, -, -⟩ := h₂.change os he' held hs₁
    exact copies_cons ho hc₁ hc₂ h₁.chain (ih₁ [o] rfl ho.first hs trivial (ha.before h₂.history))
      (ih₂ os he' held hs₁ trivial ha)
  | @keep document id r hx hc =>
    intro os he ho _ _ _
    obtain ⟨o, rfl, rfl⟩ := List.map_eq_singleton_iff.1 he
    rw [ho.root.head] at hx
    rw [ho.root.content, List.map_eq_nil_iff] at hc
    refine ⟨.ok (Outline.markupAll [o]), ?_, .ok ho fun x hx => .inl hx⟩
    rw [Outline.markupAll_singleton, run_copy_kept hx, hc]
    cases o with
    | leaf id h => rfl
    | branch id h content =>
      obtain rfl : content = [] := hc
      rfl
  | inside hx hc h ih =>
    intro os he ho hs _ ha
    obtain ⟨o, rfl, rfl⟩ := List.map_eq_singleton_iff.1 he
    have hcontent := ho.root.content
    obtain ⟨hc₁, -, -⟩ := h.change o.content hcontent.symm ho.content hs
    refine copies_inside ho rfl (ho.root.head ▸ hx) ?_ hc₁ (ih o.content hcontent.symm ho.content hs trivial ha)
    intro hn
    exact hc (by rw [hcontent, hn]; rfl)
  | insideStop hx hc h ih =>
    intro os he ho hs _ ha
    obtain ⟨o, rfl, rfl⟩ := List.map_eq_singleton_iff.1 he
    obtain ⟨out, hrun, hm⟩ := ih o.content ho.root.content.symm ho.content hs trivial ha
    cases hm
    refine ⟨_, ?_, .error _⟩
    rw [Outline.markupAll_singleton, run_copy_kept (ho.root.head ▸ hx), hrun]
  | noSource hx hsrc =>
    intro os he ho _ _ _
    obtain ⟨o, rfl, rfl⟩ := List.map_eq_singleton_iff.1 he
    rw [ho.root.head] at hx hsrc ⊢
    refine ⟨_, ?_, .error _⟩
    rw [Outline.markupAll_singleton, run_copy_extends hx, hsrc]
  | circular hsrc hp =>
    intro os he ho _ _ _
    obtain ⟨o, rfl, rfl⟩ := List.map_eq_singleton_iff.1 he
    rw [ho.root.head, Head.source?_eq_some] at hsrc
    rw [ho.root.head]
    refine ⟨_, ?_, .error _⟩
    rw [Outline.markupAll_singleton, run_copy_extends hsrc.1, hsrc.2]
    simp only
    rw [copyLayout, dif_pos hp]
    rfl
  | layoutStop hsrc hp _ ih =>
    intro os he ho hs _ ha
    obtain ⟨o, rfl, rfl⟩ := List.map_eq_singleton_iff.1 he
    rw [ho.root.head, Head.source?_eq_some] at hsrc
    obtain ⟨out, hrun, hm⟩ := ih [] rfl (.nil _) hs hp ha o.head.location
    cases hm
    refine ⟨_, ?_, .error _⟩
    rw [Outline.markupAll_singleton, run_copy_extends hsrc.1, hsrc.2]
    simp only [hrun]
  | @templateStop document id r source layout r₁ e r₂ hsrc hp h₁ h₂ ih₁ ih₂ =>
    intro os he ho hs _ ha
    obtain ⟨o, rfl, rfl⟩ := List.map_eq_singleton_iff.1 he
    obtain ⟨hc₁, hs₁, -⟩ := h₁.change [] rfl (.nil _) hs
    have held := hc₁.holds_all ho
    rw [ho.root.head, Head.source?_eq_some] at hsrc
    rw [store_recorded] at ih₂
    have ha₁ : r₁.MergesApart := ha.before (prefix_recorded.trans h₂.history)
    obtain ⟨out₁, hrun₁, hm₁⟩ := ih₁ [] rfl (.nil _) hs hp ha₁ o.head.location
    obtain ⟨out₂, hrun₂, hm₂⟩ := ih₂ o.content held.root.content.symm held.content hs₁ trivial ha
    rw [chain_recorded, h₁.chain, history_recorded] at hrun₂
    cases hm₁
    cases hm₂
    refine ⟨_, ?_, .error _⟩
    rw [Outline.markupAll_singleton, run_copy_extends hsrc.1, hsrc.2]
    simp only [hrun₁, hrun₂]
  | @merge document id r source layout r₁ template r₂ out r₃ hsrc hp h₁ h₂ hm ih₁ ih₂ =>
    intro os he ho hs _ ha
    obtain ⟨o, rfl, rfl⟩ := List.map_eq_singleton_iff.1 he
    obtain ⟨hc₁, hs₁, -⟩ := h₁.change [] rfl (.nil _) hs
    have held := hc₁.holds_all ho
    rw [ho.root.head] at hsrc
    rw [store_recorded] at ih₂
    have hchange := h₂.change o.content
    rw [store_recorded] at hchange
    obtain ⟨hc₂, hs₂, -⟩ := hchange held.root.content.symm held.content hs₁
    have hhistory := (merge_run hm).2.1
    have ha₂ : r₂.MergesApart := ha.before (hhistory ▸ List.prefix_append _ _)
    have ha₁ : r₁.MergesApart := ha₂.before (prefix_recorded.trans h₂.history)
    refine copies_merge ho hsrc hc₁ hc₂ hs₂ h₁.chain (ih₁ [] rfl (.nil _) hs hp ha₁)
      (ih₂ o.content held.root.content.symm held.content hs₁ trivial ha₂) hm ?_
    apply ha.of_mem
    rw [hhistory]
    exact List.mem_append_right _ (List.mem_cons_self ..)
  | unread hr =>
    intro os he ho hs hp ha l
    refine ⟨_, ?_, .error _⟩
    rw [run_copyLayout hp, hr]
    rfl
  | unparsed hr hparse =>
    intro os he ho hs hp ha l
    rw [Step.run_parse] at hparse
    split at hparse
    · next fault hf =>
      cases hparse
      refine ⟨_, ?_, .error _⟩
      rw [run_copyLayout hp, hr]
      simp only [Markup.parse, hf]
      rfl
    · cases hparse
  | load hr hparse _ ih =>
    intro os he ho hs hp ha
    obtain rfl := List.map_eq_nil_iff.1 he
    obtain ⟨_, os, hd, rfl, hid, hst, hs₁⟩ := parse_stored hparse
    have hcopies := ih os hid hst.holds (hs₁ hs) trivial (ha.before (List.prefix_append _ _))
    exact copies_layout hp hr hparse hst hd hcopies
  | loadStop hr hparse _ ih =>
    intro os he ho hs hp ha
    obtain rfl := List.map_eq_nil_iff.1 he
    obtain ⟨_, os, hd, rfl, hid, hst, hs₁⟩ := parse_stored hparse
    have hcopies := ih os hid hst.holds (hs₁ hs) trivial ha
    exact copies_layout hp hr hparse hst hd hcopies

end Resolver

namespace Setting

/-- A document that is read from its text and resolved. Its blocks are left. -/
def resolved (setting : Setting) (filename : Option String) (text : String) : Processed :=
  let step : Step (List NodeId) := do
    let tree ← Step.parse text none
    setting.resolve filename tree
  let (outcome, run) := step.run {}
  ⟨outcome, run⟩

/-- The same by copies: the document or failure, and what has been done. -/
def copied (setting : Setting) (filename : Option String) (text : String) :
    Except Failure (List Markup) × List Event :=
  let trace : Trace (List Markup) := do
    Trace.note (Step.parseEvents text none)
    match Markup.parse text none with
    | .error fault => throw fault.failure
    | .ok tree => (setting.resolver filename).copy filename (setting.chainFor filename) tree
  trace.run []

variable {setting : Setting} {filename : Option String} {text : String}

theorem resolved_of_fault {fault : MarkupFault} (hf : Markup.parse text none = .error fault) :
    setting.resolved filename text = ⟨.error fault.failure, Run.note {} (Step.parseEvents text none)⟩ := by
  have hp : (Markup.read text none).document = .error fault := hf
  rw [resolved, Step.run_bind, Step.run_parse, hp]

theorem copied_of_fault {fault : MarkupFault} (hf : Markup.parse text none = .error fault) :
    setting.copied filename text = (.error fault.failure, Step.parseEvents text none) := by
  rw [copied, Step.run_bind, Trace.run_note, hf]
  rfl

theorem resolved_of_parse {tree : List NodeId} {r : Run}
    (hp : (Step.parse text none).run {} = (.ok tree, r)) :
    setting.resolved filename text =
      let result := ((setting.resolver filename).resolve filename tree).run
        { r with chain := setting.chainFor filename }
      ⟨result.1, { result.2 with chain := r.chain }⟩ := by
  rw [resolved, Step.run_bind, hp]
  simp only [resolve, Step.run_withChain]

theorem copied_of_parse {document : List Markup} (hd : Markup.parse text none = .ok document) :
    setting.copied filename text =
      ((setting.resolver filename).copy filename (setting.chainFor filename) document).run
        (Step.parseEvents text none) := by
  rw [copied, Step.run_bind, Trace.run_note, hd]
  rfl

/-- Resolving in place over nodes that are shared is resolving by copies, whatever the document, the layouts
and the options, as long as no block of a template that its layout has lies in another such block. The
documents that come out are the same, or the failures are. So is all that has been done on the way, in the
same order: each layout that was asked for, each text that was read, and each dependency. -/
theorem resolved_eq_copied (ha : (setting.resolved filename text).run.MergesApart) :
    (setting.resolved filename text).document? = (setting.copied filename text).1 ∧
      (setting.resolved filename text).run.history = (setting.copied filename text).2 := by
  cases hd : Markup.parse text none with
  | error fault =>
    rw [resolved_of_fault hd, copied_of_fault hd]
    exact ⟨rfl, rfl⟩
  | ok document =>
    obtain ⟨tree, r, hp⟩ : ∃ tree r, (Step.parse text none).run {} = (.ok tree, r) := by
      have hread : (Markup.read text none).document = .ok document := hd
      rw [Step.run_parse, hread]
      exact ⟨_, _, rfl⟩
    obtain ⟨_, os, hd', rfl, rfl, hst, hs⟩ := Resolver.parse_stored hp
    cases hd.symm.trans hd'
    have hhistory : r.history = Step.parseEvents text none := Resolver.parse_history hp
    have hfollows : (setting.resolver filename).Follows (.tree filename (os.map Outline.id))
        ((setting.resolver filename).resolve filename (os.map Outline.id))
        { r with chain := setting.chainFor filename } :=
      Resolver.follows_resolve hst.holds (hs Store.sound_empty)
    rw [resolved_of_parse hp] at ha ⊢
    rw [copied_of_parse hd, ← hhistory]
    rcases hrun : ((setting.resolver filename).resolve filename (os.map Outline.id)).run
      { r with chain := setting.chainFor filename } with ⟨out, r₁⟩
    rw [hrun] at ha
    obtain ⟨out', hcopy, hm⟩ := (hfollows.of_run hrun).copies os rfl hst.holds (hs Store.sound_empty) trivial ha
    rw [hcopy]
    refine ⟨?_, rfl⟩
    cases hm with
    | error e => rfl
    | ok held => exact congrArg Except.ok held.document_eq

/-- A block that has been filled from one template is filled again from the next. -/
theorem resolved_eq_copied_chain :
    let setting := ofTexts [("/w/c", "<p><block name=a>x</block><block name=b></block></p>"),
      ("/w/b", "<extends src=c><block name=a type=append>y</block></extends>")]
    let text := "<extends src=b><block name=a type=append>z</block><block name=b>w</block></extends>"
    (setting.resolved none text).run.MergesApart ∧ (setting.resolved none text).outcome.toOption = some [11] ∧
      (setting.resolved none text).document? = (setting.copied none text).1 ∧
      (setting.resolved none text).run.history = (setting.copied none text).2 := by
  intro setting text
  have h : (setting.resolved none text).run.MergesApart ∧
      (setting.resolved none text).outcome.toOption = some [11] := by decide +kernel
  exact ⟨h.1, h.2, resolved_eq_copied h.1⟩

end Setting

end LayoutInheritance
