import LayoutInheritance.Inheritance.Flatten
import LayoutInheritance.Proofs.Store.Outline

/-! Resolution without bounds. The relation `Resolves` has one rule for each way in which a recursive call
of the resolution can go on or end; a derivation is a finite run, and nothing in it counts calls. Each rule
reads the store as it is when the call is made. -/

namespace LayoutInheritance

/-! ### Steps -/

namespace Step

variable {σ α β : Type}

theorem run_pure (a : α) (r : σ) : (pure a : ExceptT Failure (StateM σ) α).run r = (.ok a, r) := rfl

theorem run_bind (x : ExceptT Failure (StateM σ) α) (f : α → ExceptT Failure (StateM σ) β) (r : σ) :
    (x >>= f).run r = match x.run r with
      | (.ok a, r₁) => (f a).run r₁
      | (.error e, r₁) => (.error e, r₁) := by
  change (ExceptT.bindCont f (x.run r).1 : StateM σ _) (x.run r).2 = _
  rcases x.run r with ⟨a | a, r₁⟩ <;> rfl

theorem run_get (r : σ) : (get : ExceptT Failure (StateM σ) σ).run r = (.ok r, r) := rfl

theorem run_modify (f : σ → σ) (r : σ) :
    (modify f : ExceptT Failure (StateM σ) PUnit).run r = (.ok ⟨⟩, f r) := rfl

theorem run_note (e : Event) (r : Run) : (note e).run r = (.ok (), r.note [e]) := rfl

/-- The events of reading a text. -/
def parseEvents (text : String) (filename : Option String) : List Event :=
  .parsing filename :: (Markup.read text filename).strays.map fun s => .stray s.1 s.2

theorem run_parse (text : String) (filename : Option String) (r : Run) :
    (parse text filename).run r = match (Markup.read text filename).document with
      | .error fault => (.error fault.failure, r.note (parseEvents text filename))
      | .ok document => (.ok (r.store.addAll document).2,
          { r.note (parseEvents text filename) with store := (r.store.addAll document).1 }) := by
  rw [parse, run_bind, run_modify]
  cases (Markup.read text filename).document <;> rfl

/-- The events of a merge. -/
def mergeEvents (s : Store) (layout template : List NodeId) : List Event :=
  .merging (s.document layout) (s.document template) ::
    (s.merge layout template).filled.map fun f => .merged f.1 f.2

theorem run_merge (layout template : List NodeId) (r : Run) :
    (merge layout template).run r =
      ((match (r.store.merge layout template).issue? with
        | some issue => .error (.issue issue)
        | none => .ok layout),
       { r.note (mergeEvents r.store layout template) with store := (r.store.merge layout template).store }) := by
  change ((match (r.store.merge layout template).issue? with
    | some issue => fail issue
    | none => return layout : Step (List NodeId)).run
      { r.note (mergeEvents r.store layout template) with store := (r.store.merge layout template).store }) = _
  cases (r.store.merge layout template).issue? <;> rfl

end Step

namespace Run

@[simp] theorem store_note (r : Run) (events : List Event) : (r.note events).store = r.store := rfl

@[simp] theorem chain_note (r : Run) (events : List Event) : (r.note events).chain = r.chain := rfl

@[simp] theorem history_note (r : Run) (events : List Event) :
    (r.note events).history = r.history ++ events := rfl

@[simp] theorem store_pop (r : Run) : r.pop.store = r.store := rfl

@[simp] theorem history_pop (r : Run) : r.pop.history = r.history := rfl

/-- The layout that was pushed is the one that is popped. -/
theorem chain_pop_of_push {r : Run} {chain : List String} {path : String} (h : r.chain = chain ++ [path]) :
    r.pop.chain = chain := by
  rw [pop, h, List.dropLast_concat]

/-- A layout is in progress. -/
def enter (r : Run) (path : String) : Run :=
  (r.note [.entered path]).push path

/-- A layout is no longer in progress. -/
def leave (r : Run) (path : String) : Run :=
  (r.note [.left path]).pop

end Run

theorem Step.run_within {α : Type} (path : String) (step : Step α) (r : Run) :
    (within path step).run r = match step.run (r.enter path) with
      | (.ok a, r₁) => (.ok a, r₁.leave path)
      | (.error e, r₁) => (.error e, r₁.pop) := rfl

theorem Step.run_withChain {α : Type} (chain : List String) (step : Step α) (r : Run) :
    (withChain chain step).run r =
      ((step.run { r with chain }).1, { (step.run { r with chain }).2 with chain := r.chain }) := rfl

/-- Whether an element gives way to a layout. -/
def Head.isExtends (h : Head Markup) : Bool :=
  h.isTagNamed extendsTag

/-- The source of the layout that an element gives way to. -/
def Head.source? (h : Head Markup) : Option String :=
  if h.isExtends then h.attribute? "src" else none

theorem Head.source?_eq_some {h : Head Markup} {source : String} :
    h.source? = some source ↔ h.isExtends ∧ h.attribute? "src" = some source := by
  unfold Head.source?
  split <;> simp_all

namespace Resolver

/-- A recursive call of the resolution. -/
inductive Call where
  | tree (document : Option String) (ids : List NodeId)
  | node (document : Option String) (id : NodeId)
  /-- A layout that `document` extends. -/
  | layout (document : Option String) (path : String)

/-- The nodes that a call begins with. -/
def Call.roots : Call → List NodeId
  | tree _ ids => ids
  | node _ id => [id]
  | layout _ _ => []

/-- The run after a layout has been resolved. -/
def recorded (c : Resolver) (r : Run) (path : String) (document : Option String) : Run :=
  if c.tracking then r.note [.depends ⟨path, document⟩] else r

/-- `Resolves c call r out r'`: called in the run `r`, the resolution ends with `out` in the run `r'`. -/
inductive Resolves (c : Resolver) : Call → Run → Except Failure (List NodeId) → Run → Prop
  | nil {document r} : Resolves c (.tree document []) r (.ok []) r
  | stop {document id ids r e r₁} : Resolves c (.node document id) r (.error e) r₁ →
      Resolves c (.tree document (id :: ids)) r (.error e) r₁
  | cons {document id ids r here r₁ out r₂} : Resolves c (.node document id) r (.ok here) r₁ →
      Resolves c (.tree document ids) r₁ out r₂ →
      Resolves c (.tree document (id :: ids)) r (out.map (here ++ ·)) r₂
  /-- There is nothing inside. -/
  | keep {document id r} : (r.store.head id).isExtends = false → r.store.content id = [] →
      Resolves c (.node document id) r (.ok [id]) r
  | inside {document id r content r₁} : (r.store.head id).isExtends = false → r.store.content id ≠ [] →
      Resolves c (.tree document (r.store.content id)) r (.ok content) r₁ →
      Resolves c (.node document id) r (.ok [id]) { r₁ with store := r₁.store.setContent id content }
  | insideStop {document id r e r₁} : (r.store.head id).isExtends = false → r.store.content id ≠ [] →
      Resolves c (.tree document (r.store.content id)) r (.error e) r₁ →
      Resolves c (.node document id) r (.error e) r₁
  | noSource {document id r} : (r.store.head id).isExtends → (r.store.head id).attribute? "src" = none →
      Resolves c (.node document id) r (.error (.issue (.missingSource (some (r.store.head id).location)))) r
  | circular {document id r source} : (r.store.head id).source? = some source →
      c.layoutPath source ∈ r.chain →
      Resolves c (.node document id) r (.error (.issue
        (.circular (r.chain ++ [c.layoutPath source]) (some (r.store.head id).location)))) r
  | layoutStop {document id r source e r₁} : (r.store.head id).source? = some source →
      c.layoutPath source ∉ r.chain → Resolves c (.layout document (c.layoutPath source)) r (.error e) r₁ →
      Resolves c (.node document id) r (.error e) r₁
  | templateStop {document id r source layout r₁ e r₂} : (r.store.head id).source? = some source →
      c.layoutPath source ∉ r.chain →
      Resolves c (.layout document (c.layoutPath source)) r (.ok layout) r₁ →
      Resolves c (.tree document (r₁.store.content id)) (c.recorded r₁ (c.layoutPath source) document)
        (.error e) r₂ →
      Resolves c (.node document id) r (.error e) r₂
  | merge {document id r source layout r₁ template r₂ out r₃} : (r.store.head id).source? = some source →
      c.layoutPath source ∉ r.chain →
      Resolves c (.layout document (c.layoutPath source)) r (.ok layout) r₁ →
      Resolves c (.tree document (r₁.store.content id)) (c.recorded r₁ (c.layoutPath source) document)
        (.ok template) r₂ →
      (Step.merge layout template).run r₂ = (out, r₃) →
      Resolves c (.node document id) r out r₃
  | unread {document path r fault} : c.library.read path c.encoding = .error fault →
      Resolves c (.layout document path) r (.error (.file fault)) (r.note [.loading path c.encoding document])
  | unparsed {document path r text e r₁} : c.library.read path c.encoding = .ok text →
      (Step.parse text (some path)).run (r.note [.loading path c.encoding document]) = (.error e, r₁) →
      Resolves c (.layout document path) r (.error e) r₁
  | load {document path r text tree r₁ found r₂} : c.library.read path c.encoding = .ok text →
      (Step.parse text (some path)).run (r.note [.loading path c.encoding document]) = (.ok tree, r₁) →
      Resolves c (.tree (some path) tree) (r₁.enter path) (.ok found) r₂ →
      Resolves c (.layout document path) r (.ok found) (r₂.leave path)
  | loadStop {document path r text tree r₁ e r₂} : c.library.read path c.encoding = .ok text →
      (Step.parse text (some path)).run (r.note [.loading path c.encoding document]) = (.ok tree, r₁) →
      Resolves c (.tree (some path) tree) (r₁.enter path) (.error e) r₂ →
      Resolves c (.layout document path) r (.error e) r₂.pop

/-! ### What single steps do -/

variable {c : Resolver} {r r₁ : Run}

@[simp] theorem store_recorded (path : String) (document : Option String) :
    (c.recorded r path document).store = r.store := by
  unfold recorded
  split <;> rfl

@[simp] theorem chain_recorded (path : String) (document : Option String) :
    (c.recorded r path document).chain = r.chain := by
  unfold recorded
  split <;> rfl

theorem history_recorded (path : String) (document : Option String) :
    (c.recorded r path document).history =
      r.history ++ if c.tracking then [.depends ⟨path, document⟩] else [] := by
  unfold recorded
  split
  · rfl
  · exact (List.append_nil _).symm

theorem prefix_recorded {path : String} {document : Option String} :
    r.history <+: (c.recorded r path document).history := by
  rw [history_recorded]
  exact List.prefix_append _ _

theorem parse_chain {text : String} {filename : Option String} {out : Except Failure (List NodeId)}
    (h : (Step.parse text filename).run r = (out, r₁)) : r₁.chain = r.chain := by
  rw [Step.run_parse] at h
  split at h <;> cases h <;> rfl

theorem parse_history {text : String} {filename : Option String} {out : Except Failure (List NodeId)}
    (h : (Step.parse text filename).run r = (out, r₁)) :
    r₁.history = r.history ++ Step.parseEvents text filename := by
  rw [Step.run_parse] at h
  split at h <;> cases h <;> rfl

/-- A layout is entered when it has been read. -/
theorem chain_enter {text path : String} {filename : Option String} {events : List Event}
    {out : Except Failure (List NodeId)} (h : (Step.parse text filename).run (r.note events) = (out, r₁)) :
    (r₁.enter path).chain = r.chain ++ [path] := by
  rw [← Run.chain_note r events, ← parse_chain h]
  rfl

/-- A text that is read becomes a tree of new nodes. -/
theorem parse_stored {text : String} {filename : Option String} {tree : List NodeId}
    (h : (Step.parse text filename).run r = (.ok tree, r₁)) :
    ∃ document os, Markup.parse text filename = .ok document ∧ Outline.markupAll os = document ∧
      os.map Outline.id = tree ∧ r.store.Stored os r₁.store ∧ (r.store.Sound → r₁.store.Sound) := by
  rw [Step.run_parse] at h
  split at h
  · cases h
  · next document hd =>
    cases h
    obtain ⟨os, hm, hid, hs⟩ := Store.stored_addAll r.store document
    refine ⟨document, os, hd, hm, hid, hs, fun h => hs.sound h ?_⟩
    rw [hm]
    exact Markup.tagged_of_read hd

theorem merge_run {layout template : List NodeId} {out : Except Failure (List NodeId)}
    (h : (Step.merge layout template).run r = (out, r₁)) :
    r₁.chain = r.chain ∧ r₁.history = r.history ++ Step.mergeEvents r.store layout template ∧
      r₁.store = (r.store.merge layout template).store := by
  rw [Step.run_merge] at h
  cases h
  exact ⟨rfl, rfl, rfl⟩

theorem merge_out {layout template : List NodeId} {found : List NodeId}
    (h : (Step.merge layout template).run r = (.ok found, r₁)) : found = layout := by
  rw [Step.run_merge] at h
  split at h <;> cases h
  rfl

/-- A call has one outcome. -/
theorem Resolves.unique {call : Call} {out out' : Except Failure (List NodeId)} {r₂ : Run}
    (h : c.Resolves call r out r₁) (h' : c.Resolves call r out' r₂) : out = out' ∧ r₁ = r₂ := by
  induction h generalizing out' r₂ with
  | nil =>
    cases h'
    exact ⟨rfl, rfl⟩
  | stop _ ih =>
    cases h' with
    | stop h => exact ih h
    | cons h _ => exact nomatch (ih h).1
  | cons _ _ ih ih' =>
    cases h' with
    | stop h => exact nomatch (ih h).1
    | cons h h₂ =>
      obtain ⟨he, rfl⟩ := ih h
      cases he
      obtain ⟨rfl, rfl⟩ := ih' h₂
      exact ⟨rfl, rfl⟩
  | keep he hc => cases h' <;> simp_all [Head.source?]
  | inside he hc _ ih =>
    cases h' with
    | inside _ _ h =>
      obtain ⟨he, rfl⟩ := ih h
      cases he
      exact ⟨rfl, rfl⟩
    | insideStop _ _ h => exact nomatch (ih h).1
    | _ => simp_all [Head.source?]
  | insideStop he hc _ ih =>
    cases h' with
    | inside _ _ h => exact nomatch (ih h).1
    | insideStop _ _ h => exact ih h
    | _ => simp_all [Head.source?]
  | noSource he hs => cases h' <;> simp_all [Head.source?]
  | circular hs hp => cases h' <;> simp_all [Head.source?]
  | layoutStop hs hp _ ih =>
    cases h' with
    | layoutStop hs' _ h =>
      cases hs.symm.trans hs'
      exact ih h
    | templateStop hs' _ h | merge hs' _ h =>
      cases hs.symm.trans hs'
      exact nomatch (ih h).1
    | _ => simp_all [Head.source?]
  | templateStop hs hp _ _ ih ih' =>
    cases h' with
    | layoutStop hs' _ h =>
      cases hs.symm.trans hs'
      exact nomatch (ih h).1
    | templateStop hs' _ h h₂ =>
      cases hs.symm.trans hs'
      obtain ⟨-, rfl⟩ := ih h
      exact ih' h₂
    | merge hs' _ h h₂ =>
      cases hs.symm.trans hs'
      obtain ⟨-, rfl⟩ := ih h
      exact nomatch (ih' h₂).1
    | _ => simp_all [Head.source?]
  | merge hs hp _ _ hm ih ih' =>
    cases h' with
    | layoutStop hs' _ h =>
      cases hs.symm.trans hs'
      exact nomatch (ih h).1
    | templateStop hs' _ h h₂ =>
      cases hs.symm.trans hs'
      obtain ⟨-, rfl⟩ := ih h
      exact nomatch (ih' h₂).1
    | merge hs' _ h h₂ hm' =>
      cases hs.symm.trans hs'
      obtain ⟨he, rfl⟩ := ih h
      cases he
      obtain ⟨he, rfl⟩ := ih' h₂
      cases he
      exact Prod.mk.inj (hm.symm.trans hm')
    | _ => simp_all [Head.source?]
  | unread hr => cases h' <;> simp_all
  | unparsed hr hp =>
    cases h' with
    | unread hr' => exact nomatch hr.symm.trans hr'
    | unparsed hr' hp' =>
      cases hr.symm.trans hr'
      cases hp.symm.trans hp'
      exact ⟨rfl, rfl⟩
    | load hr' hp' | loadStop hr' hp' =>
      cases hr.symm.trans hr'
      cases hp.symm.trans hp'
  | load hr hp _ ih =>
    cases h' with
    | unread hr' => exact nomatch hr.symm.trans hr'
    | unparsed hr' hp' =>
      cases hr.symm.trans hr'
      cases hp.symm.trans hp'
    | load hr' hp' h =>
      cases hr.symm.trans hr'
      cases hp.symm.trans hp'
      obtain ⟨he, rfl⟩ := ih h
      cases he
      exact ⟨rfl, rfl⟩
    | loadStop hr' hp' h =>
      cases hr.symm.trans hr'
      cases hp.symm.trans hp'
      exact nomatch (ih h).1
  | loadStop hr hp _ ih =>
    cases h' with
    | unread hr' => exact nomatch hr.symm.trans hr'
    | unparsed hr' hp' =>
      cases hr.symm.trans hr'
      cases hp.symm.trans hp'
    | load hr' hp' h =>
      cases hr.symm.trans hr'
      cases hp.symm.trans hp'
      exact nomatch (ih h).1
    | loadStop hr' hp' h =>
      cases hr.symm.trans hr'
      cases hp.symm.trans hp'
      obtain ⟨he, rfl⟩ := ih h
      cases he
      exact ⟨rfl, rfl⟩

/-- Whatever the outcome, the layouts in progress are those from before. -/
theorem Resolves.chain {call : Call} {out : Except Failure (List NodeId)} (h : c.Resolves call r out r₁) :
    r₁.chain = r.chain := by
  induction h with
  | nil | keep | noSource | circular => rfl
  | stop _ ih | insideStop _ _ _ ih | inside _ _ _ ih | layoutStop _ _ _ ih => exact ih
  | cons _ _ ih ih' => exact ih'.trans ih
  | templateStop _ _ _ _ ih ih' => rw [ih', chain_recorded, ih]
  | merge _ _ _ _ hm ih ih' => rw [(merge_run hm).1, ih', chain_recorded, ih]
  | unread => rfl
  | unparsed _ hp => exact (parse_chain hp :)
  | load _ hp _ ih | loadStop _ hp _ ih => exact Run.chain_pop_of_push (ih.trans (chain_enter hp))

/-- What has been done stays done. -/
theorem Resolves.history {call : Call} {out : Except Failure (List NodeId)} (h : c.Resolves call r out r₁) :
    r.history <+: r₁.history := by
  induction h with
  | nil | keep | noSource | circular => exact List.prefix_rfl
  | stop _ ih | insideStop _ _ _ ih | inside _ _ _ ih | layoutStop _ _ _ ih => exact ih
  | cons _ _ ih ih' => exact ih.trans ih'
  | templateStop _ _ _ _ ih ih' => exact ih.trans (prefix_recorded.trans ih')
  | merge _ _ _ _ hm ih ih' =>
    rw [(merge_run hm).2.1]
    exact ih.trans (prefix_recorded.trans (ih'.trans (List.prefix_append _ _)))
  | unread => exact List.prefix_append _ _
  | unparsed _ hp =>
    rw [parse_history hp]
    exact (List.prefix_append _ _).trans (List.prefix_append _ _)
  | load _ hp _ ih =>
    refine List.IsPrefix.trans ?_ (ih.trans (List.prefix_append _ _))
    simp only [Run.enter, Run.note, parse_history hp, List.append_assoc]
    exact List.prefix_append _ _
  | loadStop _ hp _ ih =>
    refine List.IsPrefix.trans ?_ ih
    simp only [Run.enter, Run.note, parse_history hp, List.append_assoc]
    exact List.prefix_append _ _

end Resolver

end LayoutInheritance
