import LayoutInheritance.Proofs.Inheritance.Accounting
import LayoutInheritance.Proofs.Inheritance.Retry

/-! What is done for a document, as a function of the document. Each element that extends a layout has it loaded, and
what a layout has loaded in turn is the same wherever that happens; then the content of the element is resolved. A
failure cuts this off. Only what is merged, which depends on places, is left out. -/

namespace LayoutInheritance

/-- Whether an event belongs to a merge. -/
def Event.isMerging : Event → Bool
  | merging .. | merged .. => true
  | _ => false

namespace Run

/-- What has been done, in order, but for merges. -/
def trail (r : Run) : List Event :=
  r.history.filter fun e => !e.isMerging

variable {r r' : Run}

theorem trail_of_history {events : List Event} (h : r'.history = r.history ++ events) :
    r'.trail = r.trail ++ events.filter fun e => !e.isMerging := by
  rw [trail, h, List.filter_append, trail]

theorem filterMap_trail {α : Type} {f : Event → Option α} (hf : ∀ e, e.isMerging → f e = none) (r : Run) :
    r.trail.filterMap f = r.history.filterMap f := by
  rw [trail, List.filterMap_filter]
  refine List.filterMap_congr fun e _ => ?_
  cases he : e.isMerging with
  | true => exact (hf e he).symm
  | false => rfl

/-- Merges ask for nothing and record nothing. -/
theorem gains_of_trail {events : List Event} (h : r'.trail = r.trail ++ events) :
    r.Gains r' (note {} events).loads (note {} events).parses (note {} events).dependencies := by
  have hgain {α : Type} (f : Event → Option α) (hf : ∀ e, e.isMerging → f e = none) :
      r'.history.filterMap f = r.history.filterMap f ++ events.filterMap f := by
    rw [← filterMap_trail hf, h, List.filterMap_append, filterMap_trail hf]
  refine ⟨hgain _ fun e he => ?_, hgain _ fun e he => ?_, hgain _ fun e he => ?_⟩ <;> cases e <;> first | rfl | cases he

end Run

namespace Resolver

variable {c : Resolver} {r r' : Run} {out : Except Failure (List NodeId)} {document : Option String} {path : String}
  {chain : List String} {o : Outline} {os : List Outline}

/-! ### Layouts -/

/-- What is done to load a layout on its own while `chain` is in progress. -/
def layoutTrail (c : Resolver) (document : Option String) (chain : List String) (path : String) : List Event :=
  ((c.inherited (c.library.paths.length + 1) document path).run { chain }).2.trail

/-- The same is done wherever a layout is loaded. -/
theorem Resolves.layoutTrail (h : c.Resolves (.layout document path) r out r') (hp : path ∉ r.chain) :
    r'.trail = r.trail ++ c.layoutTrail document r.chain path := by
  have h₀ : c.Resolves (.layout document path) { chain := r.chain } _ _ := follows_loaded document hp
  obtain ⟨t, ht, hshift⟩ := h₀.shift [] rfl (.nil _) Store.sound_empty (t := r)
    ⟨.empty _, rfl, (List.append_nil _).symm⟩
  obtain ⟨-, rfl⟩ := h.unique ht
  exact Run.trail_of_history hshift.history

theorem Resolves.isOk_loaded (h : c.Resolves (.layout document path) r out r') (hs : r.store.Sound)
    (hp : path ∉ r.chain) : (c.loaded document r.chain path).isOk = out.isOk := by
  rcases h.loaded hs hp with ⟨e, hl, rfl⟩ | ⟨layout, hl, rfl, -⟩ <;> rw [hl] <;> rfl

/-! ### Documents -/

/-- What is done for an element that extends a layout, where `template` is done for its content. -/
def expansionTrail (c : Resolver) (document : Option String) (chain : List String) (h : Head Markup)
    (template : List Event) : List Event :=
  match h.attribute? "src" with
  | none => []
  | some source =>
    if c.layoutPath source ∈ chain then []
    else c.layoutTrail document chain (c.layoutPath source) ++
      if (c.loaded document chain (c.layoutPath source)).isOk then
        (if c.tracking then [.depends ⟨c.layoutPath source, document⟩] else []) ++ template
      else []

mutual

/-- What is done for a node while `chain` is in progress. -/
def trail (c : Resolver) (document : Option String) (chain : List String) : Markup → List Event
  | .leaf h => if h.isExtends then c.expansionTrail document chain h [] else []
  | .branch h content =>
    if h.isExtends then c.expansionTrail document chain h (c.trailAll document chain content)
    else c.trailAll document chain content

def trailAll (c : Resolver) (document : Option String) (chain : List String) : List Markup → List Event
  | [] => []
  | m :: rest =>
    c.trail document chain m ++ if (c.meaning document chain m).isOk then c.trailAll document chain rest else []

end

theorem trail_eq (m : Markup) : c.trail document chain m =
    if m.head.isExtends then c.expansionTrail document chain m.head (c.trailAll document chain m.content)
    else c.trailAll document chain m.content := by
  cases m with
  | leaf h =>
    rw [trail]
    rfl
  | branch h content =>
    rw [trail]
    rfl

theorem trailAll_singleton (m : Markup) : c.trailAll document chain [m] = c.trail document chain m := by
  rw [trailAll, trailAll, ite_self, List.append_nil]

theorem trailAll_first (o : Outline) (os : List Outline) : c.trailAll document chain (Outline.markupAll (o :: os)) =
    c.trailAll document chain (Outline.markupAll [o]) ++
      if (c.meaningAll document chain (Outline.markupAll [o])).isOk then
        c.trailAll document chain (Outline.markupAll os) else [] := by
  rw [Outline.markupAll, trailAll, Outline.markupAll_singleton, trailAll_singleton, meaningAll_singleton]

theorem trailAll_outline : c.trailAll document chain (Outline.markupAll [o]) =
    if o.head.isExtends then c.expansionTrail document chain o.head (c.trailAll document chain (Outline.markupAll o.content))
    else c.trailAll document chain (Outline.markupAll o.content) := by
  rw [Outline.markupAll_singleton, trailAll_singleton, trail_eq, Outline.head_markup, Outline.content_markup]

/-! ### Runs -/

theorem trail_recorded (r : Run) (path : String) (document : Option String) : (c.recorded r path document).trail =
    r.trail ++ if c.tracking then [.depends ⟨path, document⟩] else [] := by
  rw [Run.trail_of_history (history_recorded path document)]
  split <;> rfl

theorem trail_merge {layout template : List NodeId} (h : (Step.merge layout template).run r = (out, r')) :
    r'.trail = r.trail := by
  have hevents : (Step.mergeEvents r.store layout template).filter (fun e => !e.isMerging) = [] := by
    rw [List.filter_eq_nil_iff]
    intro e he
    rcases List.mem_cons.1 he with rfl | he
    · exact Bool.false_ne_true
    · obtain ⟨f, -, rfl⟩ := List.mem_map.1 he
      exact Bool.false_ne_true
  rw [Run.trail_of_history (merge_run h).2.1, hevents, List.append_nil]

/-- A resolution comes to what its document means. -/
theorem Resolves.document_eq (h : c.Resolves (.tree document (os.map Outline.id)) r out r') (ho : r.store.Holds os)
    (hs : r.store.Sound) : out.map r'.store.document = c.meaningAll document r.chain (Outline.markupAll os) := by
  obtain ⟨rfl, rfl⟩ := h.unique (follows_resolve ho hs)
  have hr : c.Resumable document r.chain (fun _ => False) os r := .of_holds ho hs
  exact (hr.resolved ((Outline.heightAll_le_length os).trans ho.length_le)).document_eq

theorem Resolves.isOk_meaning (h : c.Resolves (.node document o.id) r out r') (ho : r.store.Holds [o])
    (hs : r.store.Sound) : (c.meaningAll document r.chain (Outline.markupAll [o])).isOk = out.isOk := by
  cases out with
  | error e =>
    have htree : c.Resolves (.tree document ([o].map Outline.id)) r (.error e) r' := .stop h
    rw [← htree.document_eq ho hs]
    rfl
  | ok found =>
    have htree : c.Resolves (.tree document ([o].map Outline.id)) r (.ok (found ++ [])) r' := .cons h .nil
    rw [← htree.document_eq ho hs]
    rfl

/-- The document whose nodes a call is for. -/
def Call.document? : Call → Option (Option String)
  | tree document _ | node document _ => some document
  | layout .. => none

/-- A layout has been loaded from `r` to `r₁`, and the content of the element that extends it has been resolved from
there to `r₂`. -/
theorem Resolves.trail_template {r₁ r₂ : Run} {layout : List NodeId} {source : String}
    (h : c.Resolves (.layout document (c.layoutPath source)) r (.ok layout) r₁) (hs : r.store.Sound)
    (ho : r.store.Holds [o]) (hsrc : (r.store.head o.id).source? = some source) (hp : c.layoutPath source ∉ r.chain)
    (ht : ∀ os : List Outline, os.map Outline.id = r₁.store.content o.id →
      (c.recorded r₁ (c.layoutPath source) document).store.Holds os →
      (c.recorded r₁ (c.layoutPath source) document).store.Sound →
      r₂.trail = (c.recorded r₁ (c.layoutPath source) document).trail ++
        c.trailAll document (c.recorded r₁ (c.layoutPath source) document).chain (Outline.markupAll os)) :
    r₂.trail = r.trail ++ c.trailAll document r.chain (Outline.markupAll [o]) := by
  obtain ⟨hc₁, hs₁, -⟩ := h.change [] rfl (.nil _) hs
  have held := hc₁.holds_all ho
  rw [store_recorded] at ht
  have htemplate := ht o.content held.root.content.symm held.content hs₁
  rw [chain_recorded, h.chain, trail_recorded, h.layoutTrail hp] at htemplate
  rw [ho.root.head, Head.source?_eq_some] at hsrc
  rw [htemplate, trailAll_outline, if_pos hsrc.1, expansionTrail, hsrc.2]
  simp only [if_neg hp, h.isOk_loaded hs hp, List.append_assoc]
  rfl

/-- A call for nodes of a document does what is done for the document. -/
theorem Resolves.trail {call : Call} (h : c.Resolves call r out r') :
    ∀ document, call.document? = some document → ∀ os : List Outline, os.map Outline.id = call.roots →
      r.store.Holds os → r.store.Sound →
        r'.trail = r.trail ++ c.trailAll document r.chain (Outline.markupAll os) := by
  induction h with
  | nil =>
    rintro _ ⟨⟩ os he _ _
    obtain rfl := List.map_eq_nil_iff.1 he
    exact (List.append_nil _).symm
  | stop h₁ ih =>
    rintro _ ⟨⟩ os he ho hs
    obtain ⟨o, os, rfl, rfl, -⟩ := List.map_eq_cons_iff.1 he
    have hok := h₁.isOk_meaning ho.first hs
    rw [ih _ rfl [o] rfl ho.first hs, trailAll_first o os, hok]
    exact congrArg _ (List.append_nil _).symm
  | cons h₁ _ ih₁ ih₂ =>
    rintro _ ⟨⟩ os he ho hs
    obtain ⟨o, os, rfl, rfl, he'⟩ := List.map_eq_cons_iff.1 he
    obtain ⟨hc₁, hs₁, -⟩ := h₁.change [o] rfl ho.first hs
    have hok := h₁.isOk_meaning ho.first hs
    rw [ih₂ _ rfl os he' (hc₁.holds_rest ho) hs₁, ih₁ _ rfl [o] rfl ho.first hs, h₁.chain, trailAll_first o os, hok,
      List.append_assoc]
    rfl
  | keep hx hc =>
    rintro _ ⟨⟩ os he ho _
    obtain ⟨o, rfl, rfl⟩ := List.map_eq_singleton_iff.1 he
    rw [ho.root.head] at hx
    rw [ho.root.content, List.map_eq_nil_iff] at hc
    rw [trailAll_outline, hx, hc]
    exact (List.append_nil _).symm
  | inside hx _ h ih | insideStop hx _ h ih =>
    rintro _ ⟨⟩ os he ho hs
    obtain ⟨o, rfl, rfl⟩ := List.map_eq_singleton_iff.1 he
    rw [ho.root.head] at hx
    rw [trailAll_outline, hx]
    exact ih _ rfl o.content ho.root.content.symm ho.content hs
  | noSource hx hsrc =>
    rintro _ ⟨⟩ os he ho _
    obtain ⟨o, rfl, rfl⟩ := List.map_eq_singleton_iff.1 he
    rw [ho.root.head] at hx hsrc
    rw [trailAll_outline, if_pos hx, expansionTrail, hsrc]
    exact (List.append_nil _).symm
  | circular hsrc hp =>
    rintro _ ⟨⟩ os he ho _
    obtain ⟨o, rfl, rfl⟩ := List.map_eq_singleton_iff.1 he
    rw [ho.root.head, Head.source?_eq_some] at hsrc
    rw [trailAll_outline, if_pos hsrc.1, expansionTrail, hsrc.2]
    simp only [if_pos hp, List.append_nil]
  | layoutStop hsrc hp h _ =>
    rintro _ ⟨⟩ os he ho hs
    obtain ⟨o, rfl, rfl⟩ := List.map_eq_singleton_iff.1 he
    rw [ho.root.head, Head.source?_eq_some] at hsrc
    rw [trailAll_outline, if_pos hsrc.1, expansionTrail, hsrc.2]
    simp only [if_neg hp, h.isOk_loaded hs hp]
    rw [h.layoutTrail hp]
    exact congrArg _ (List.append_nil _).symm
  | templateStop hsrc hp h₁ _ _ ih =>
    rintro _ ⟨⟩ os he ho hs
    obtain ⟨o, rfl, rfl⟩ := List.map_eq_singleton_iff.1 he
    exact h₁.trail_template hs ho hsrc hp (ih _ rfl)
  | merge hsrc hp h₁ _ hm _ ih =>
    rintro _ ⟨⟩ os he ho hs
    obtain ⟨o, rfl, rfl⟩ := List.map_eq_singleton_iff.1 he
    exact (trail_merge hm).trans (h₁.trail_template hs ho hsrc hp (ih _ rfl))
  | unread | unparsed | load | loadStop =>
    intro _ hd
    cases hd

end Resolver

end LayoutInheritance
