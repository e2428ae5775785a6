import LayoutInheritance.Proofs.Inheritance.Cycle
import LayoutInheritance.Proofs.Inheritance.Locality
import Mathlib.Data.List.Perm.Basic

/-! Accounting for dependencies. A layout is recorded once what it extends has been resolved, and before the
template that fills it is. So when a resolution comes to nodes, each layout that was asked for has been
recorded, after all that it leads to itself; and when it fails, the layouts that are missing are those in
progress, and the one that could not be opened. -/

namespace LayoutInheritance

open Outline (ids)
open Relation (ReflTransGen)

namespace Run

/-- What has been asked for, read and recorded from one run to a later one, in order. -/
structure Gains (r r' : Run) (loads : List (String × String)) (parses : List (Option String))
    (recorded : List Dependency) : Prop where
  loads : r'.loads = r.loads ++ loads
  parses : r'.parses = r.parses ++ parses
  dependencies : r'.dependencies = r.dependencies ++ recorded

variable {r r₁ r₂ : Run} {loads loads' : List (String × String)} {parses parses' : List (Option String)}
  {recorded recorded' : List Dependency}

theorem Gains.of_history (events : List Event) (h : r₁.history = r.history ++ events) :
    r.Gains r₁ (note {} events).loads (note {} events).parses (note {} events).dependencies := by
  constructor <;> simp [Run.loads, Run.parses, Run.dependencies, h]

theorem Gains.refl (r : Run) : r.Gains r [] [] [] :=
  of_history [] (List.append_nil _).symm

theorem Gains.trans (h₁ : r.Gains r₁ loads parses recorded) (h₂ : r₁.Gains r₂ loads' parses' recorded') :
    r.Gains r₂ (loads ++ loads') (parses ++ parses') (recorded ++ recorded') := by
  constructor
  · rw [h₂.loads, h₁.loads, List.append_assoc]
  · rw [h₂.parses, h₁.parses, List.append_assoc]
  · rw [h₂.dependencies, h₁.dependencies, List.append_assoc]

/-- What does not stand in the history makes no difference. -/
theorem Gains.congr (h : r.Gains r₁ loads parses recorded) (hr : r₂.history = r₁.history) :
    r.Gains r₂ loads parses recorded where
  loads := by rw [← h.loads, Run.loads, hr, Run.loads]
  parses := by rw [← h.parses, Run.parses, hr, Run.parses]
  dependencies := by rw [← h.dependencies, Run.dependencies, hr, Run.dependencies]

theorem gains_enter (r : Run) (path : String) : r.Gains (r.enter path) [] [] [] :=
  .of_history [.entered path] rfl

theorem gains_leave (r : Run) (path : String) : r.Gains (r.leave path) [] [] [] :=
  .of_history [.left path] rfl

end Run

/-- What a document is called where it is the parent of a dependency, when the main document is called
`name`. -/
def Document.name (name : Option String) : Document → Option String
  | main => name
  | layout path => some path

namespace Resolver

open Run (Gains)

variable {c : Resolver} {r r' r₁ r₂ : Run} {out : Except Failure (List NodeId)} {e : Failure}

theorem parse_ne_file {text : String} {filename : Option String} {fault : FileFault}
    (h : (Step.parse text filename).run r = (out, r₁)) : out ≠ .error (.file fault) := by
  rw [Step.run_parse] at h
  rintro rfl
  split at h
  · next fault _ => cases fault <;> cases h
  · cases h

theorem gains_parse {text : String} {filename : Option String}
    (h : (Step.parse text filename).run r = (out, r₁)) : r.Gains r₁ [] [filename] [] := by
  have hg := Gains.of_history _ (parse_history h)
  simpa [Run.loads, Run.parses, Run.dependencies, Run.note, Step.parseEvents, List.filterMap_map,
    Function.comp_def] using hg

theorem gains_merge {layout template : List NodeId} (h : (Step.merge layout template).run r = (out, r₁)) :
    r.Gains r₁ [] [] [] := by
  have hg := Gains.of_history _ (merge_run h).2.1
  simpa [Run.loads, Run.parses, Run.dependencies, Run.note, Step.mergeEvents, List.filterMap_map,
    Function.comp_def] using hg

theorem gains_recorded (ht : c.tracking) (r : Run) (path : String) (document : Option String) :
    r.Gains (c.recorded r path document) [] [] [⟨path, document⟩] := by
  apply Gains.of_history [.depends ⟨path, document⟩]
  rw [history_recorded, if_pos ht]

theorem gains_load (r : Run) (path : String) (document : Option String) :
    r.Gains (r.note [.loading path c.encoding document]) [(path, c.encoding)] [] [] :=
  .of_history [.loading path c.encoding document] rfl

/-! ### The balance of loads -/

/-- The layout that a call is to load itself. -/
def Call.asked : Call → List String
  | layout _ path => [path]
  | _ => []

/-- A call fails of itself, not in a call that it makes. -/
inductive Breaks (c : Resolver) : Call × Run → Failure → Prop
  | noSource {document id r} : (r.store.head id).isExtends → (r.store.head id).attribute? "src" = none →
      Breaks c (.node document id, r) (.issue (.missingSource (some (r.store.head id).location)))
  | circular {document id r source} : (r.store.head id).source? = some source →
      c.layoutPath source ∈ r.chain →
      Breaks c (.node document id, r)
        (.issue (.circular (r.chain ++ [c.layoutPath source]) (some (r.store.head id).location)))
  | merge {document id r source layout r₁ template r₂ e r₃} : (r.store.head id).source? = some source →
      c.layoutPath source ∉ r.chain →
      c.Resolves (.layout document (c.layoutPath source)) r (.ok layout) r₁ →
      c.Resolves (.tree document (r₁.store.content id)) (c.recorded r₁ (c.layoutPath source) document)
        (.ok template) r₂ →
      (Step.merge layout template).run r₂ = (.error e, r₃) →
      Breaks c (.node document id, r) e
  | unread {document path r fault} : c.library.read path c.encoding = .error fault →
      Breaks c (.layout document path, r) (.file fault)
  | unparsed {document path r text e r₁} : c.library.read path c.encoding = .ok text →
      (Step.parse text (some path)).run (r.note [.loading path c.encoding document]) = (.error e, r₁) →
      Breaks c (.layout document path, r) e

/-- The layout that has been asked for and not been read when a call fails of itself. -/
def Call.unread : Call → Failure → List String
  | layout _ path, .file _ => [path]
  | _, _ => []

/-- How a call stops: in the call `p`, with the layouts `active` in progress beside those from before. All
other layouts that were asked for by then have been recorded, except for one that is being opened. -/
structure Stops (c : Resolver) (call : Call) (r : Run) (e : Failure) (r' : Run) (p : Call × Run)
    (active : List String) (loads : List (String × String)) (parses : List (Option String))
    (recorded : List Dependency) : Prop where
  gains : r.Gains r' loads parses recorded
  reached : ReflTransGen c.Calls (call, r) p
  breaks : c.Breaks p e
  chain : p.2.chain = r.chain ++ active
  balance : (loads.map Prod.fst).Perm (recorded.map Dependency.file ++ active ++ p.1.asked)
  read : loads.map (fun l => some l.1) = parses ++ (p.1.unread e).map some
  last : ∀ path ∈ p.1.asked, loads.getLast? = some (path, c.encoding)

variable {call call' : Call} {p : Call × Run} {active opened : List String}
  {loads loads' : List (String × String)} {parses : List (Option String)}
  {recorded recorded' : List Dependency}

/-- A call that breaks before it has asked for anything. -/
theorem Stops.here (h : c.Breaks (call, r) e) (ha : call.asked = []) : c.Stops call r e r (call, r) [] [] [] [] where
  gains := .refl r
  reached := .refl
  breaks := h
  chain := (List.append_nil _).symm
  balance := by simp [ha]
  read := by
    cases call with
    | layout => exact nomatch ha
    | _ => rfl
  last := by simp [ha]

/-- What stops a call stops the one that makes it. The layouts `opened` have been asked for by then and put
in progress, and all others that were asked for before have been recorded. -/
theorem Stops.after (h : c.Stops call' r₁ e r' p active loads' parses recorded')
    (hc : c.Calls (call, r) (call', r₁)) (hg : r.Gains r₁ loads (loads.map fun l => some l.1) recorded)
    (hr : r₁.chain = r.chain ++ opened)
    (hb : (loads.map Prod.fst).Perm (recorded.map Dependency.file ++ opened)) :
    c.Stops call r e r' p (opened ++ active) (loads ++ loads') ((loads.map fun l => some l.1) ++ parses)
      (recorded ++ recorded') where
  gains := hg.trans h.gains
  reached := .head hc h.reached
  breaks := h.breaks
  chain := by rw [h.chain, hr, List.append_assoc]
  balance := by
    rw [List.perm_iff_count]
    intro path
    have h₁ := hb.count_eq path
    have h₂ := h.balance.count_eq path
    simp only [List.map_append, List.count_append] at h₁ h₂ ⊢
    omega
  read := by rw [List.map_append, h.read, List.append_assoc]
  last path hp := by
    rw [List.getLast?_append, h.last path hp]
    rfl

/-- The loads of a call. When it comes to nodes, all have been read, and all have been recorded but for the
one that the call was to load itself. -/
def Accounts (c : Resolver) (call : Call) (r : Run) (r' : Run) : Except Failure (List NodeId) → Prop
  | .ok _ => ∃ loads recorded, r.Gains r' loads (loads.map fun l => some l.1) recorded ∧
      (loads.map Prod.fst).Perm (recorded.map Dependency.file ++ call.asked)
  | .error e => ∃ p active loads parses recorded, c.Stops call r e r' p active loads parses recorded

theorem Accounts.none (h : r.Gains r' [] [] []) (ha : call.asked = []) (found : List NodeId) :
    c.Accounts call r r' (.ok found) :=
  ⟨[], [], h, by simp [ha]⟩

/-- A layout that has been resolved is recorded. -/
theorem accounts_recorded {document : Option String} {path : String} {layout : List NodeId} (ht : c.tracking)
    (h : c.Accounts (.layout document path) r r₁ (.ok layout)) :
    ∃ loads recorded, r.Gains (c.recorded r₁ path document) loads (loads.map fun l => some l.1) recorded ∧
      (loads.map Prod.fst).Perm (recorded.map Dependency.file ++ []) := by
  obtain ⟨loads, recorded, hg, hb⟩ := h
  have hg' := hg.trans (gains_recorded ht r₁ path document)
  rw [List.append_nil, List.append_nil] at hg'
  refine ⟨loads, recorded ++ [⟨path, document⟩], hg', ?_⟩
  rw [List.map_append, List.append_nil]
  exact hb

/-- What has been asked for when the text of a layout has been read. -/
theorem gains_opened {text path : String} {document : Option String}
    (hp : (Step.parse text (some path)).run (r.note [.loading path c.encoding document]) = (out, r₁)) :
    r.Gains r₁ [(path, c.encoding)] [some path] [] :=
  (gains_load r path document).trans (gains_parse hp)

theorem Resolves.accounts (h : c.Resolves call r out r') (ht : c.tracking) : c.Accounts call r r' out := by
  induction h with
  | nil => exact .none (.refl _) rfl []
  | stop h ih =>
    obtain ⟨p, active, loads, parses, recorded, hs⟩ := ih
    exact ⟨_, _, _, _, _, hs.after .first (.refl _) (List.append_nil _).symm .nil⟩
  | @cons _ _ _ _ _ _ out _ h₁ _ ih₁ ih₂ =>
    obtain ⟨loads, recorded, hg, hb⟩ := ih₁
    cases out with
    | error e =>
      obtain ⟨p, active, loads', parses, recorded', hs⟩ := ih₂
      exact ⟨_, _, _, _, _, hs.after (.rest h₁) hg (h₁.chain.trans (List.append_nil _).symm) hb⟩
    | ok after =>
      obtain ⟨loads', recorded', hg', hb'⟩ := ih₂
      refine ⟨loads ++ loads', recorded ++ recorded', ?_, ?_⟩
      · rw [List.map_append]
        exact hg.trans hg'
      · simpa [Call.asked] using hb.append hb'
  | keep => exact .none (.refl _) rfl _
  | inside _ _ _ ih =>
    obtain ⟨loads, recorded, hg, hb⟩ := ih
    exact ⟨loads, recorded, hg.congr rfl, hb⟩
  | insideStop hx _ _ ih =>
    obtain ⟨p, active, loads, parses, recorded, hs⟩ := ih
    exact ⟨_, _, _, _, _, hs.after (.inside hx) (.refl _) (List.append_nil _).symm .nil⟩
  | noSource hx hs => exact ⟨_, _, _, _, _, .here (.noSource hx hs) rfl⟩
  | circular hs hp => exact ⟨_, _, _, _, _, .here (.circular hs hp) rfl⟩
  | layoutStop hs hp _ ih =>
    obtain ⟨p, active, loads, parses, recorded, hstop⟩ := ih
    exact ⟨_, _, _, _, _, hstop.after (.layout hs hp) (.refl _) (List.append_nil _).symm .nil⟩
  | templateStop hs hp h₁ _ ih₁ ih₂ =>
    obtain ⟨loads, recorded, hg, hb⟩ := accounts_recorded ht ih₁
    obtain ⟨p, active, loads', parses, recorded', hstop⟩ := ih₂
    refine ⟨_, _, _, _, _, hstop.after (.template hs hp h₁) hg ?_ hb⟩
    rw [chain_recorded, h₁.chain, List.append_nil]
  | @merge _ _ _ _ _ _ _ _ out _ hs hp h₁ h₂ hm ih₁ ih₂ =>
    obtain ⟨loads, recorded, hg, hb⟩ := accounts_recorded ht ih₁
    obtain ⟨loads', recorded', hg', hb'⟩ := ih₂
    have hgains := (hg.trans hg').trans (gains_merge hm)
    rw [List.append_nil, List.append_nil, List.append_nil, ← List.map_append] at hgains
    have hbalance : ((loads ++ loads').map Prod.fst).Perm ((recorded ++ recorded').map Dependency.file) := by
      simpa [Call.asked] using hb.append hb'
    cases out with
    | error e =>
      refine ⟨_, [], _, _, _, hgains, .refl, .merge hs hp h₁ h₂ hm, (List.append_nil _).symm, ?_, ?_, ?_⟩
      · simpa [Call.asked] using hbalance
      · simp [Call.unread]
      · simp [Call.asked]
    | ok found => exact ⟨_, _, hgains, by simpa [Call.asked] using hbalance⟩
  | @unread document path r fault hr =>
    exact ⟨_, [], [(path, c.encoding)], [], [], gains_load r path document, .refl, .unread hr,
      (List.append_nil _).symm, .refl _, rfl, by simp [Call.asked]⟩
  | @unparsed document path r text e r₁ hr hp =>
    refine ⟨_, [], [(path, c.encoding)], [some path], [], gains_opened hp, .refl, .unparsed hr hp,
      (List.append_nil _).symm, .refl _, ?_, by simp [Call.asked]⟩
    cases e with
    | file fault => exact absurd rfl (parse_ne_file hp)
    | _ => rfl
  | @load _ path _ _ _ r₁ _ r₂ hr hp _ ih =>
    obtain ⟨loads, recorded, hg, hb⟩ := ih
    have hgains := (((gains_opened hp).trans (Run.gains_enter r₁ path)).trans hg).trans (Run.gains_leave r₂ path)
    simp only [List.append_nil, List.nil_append] at hgains
    refine ⟨(path, c.encoding) :: loads, recorded, hgains, ?_⟩
    have hbalance : (loads.map Prod.fst).Perm (recorded.map Dependency.file) := by
      simpa [Call.asked] using hb
    exact (hbalance.cons path).trans (List.perm_append_singleton ..).symm
  | @loadStop _ path _ _ _ r₁ _ _ hr hp _ ih =>
    obtain ⟨p, active, loads, parses, recorded, hs⟩ := ih
    have hg := (gains_opened hp).trans (Run.gains_enter r₁ path)
    have hstop := hs.after (.load hr hp) hg (chain_enter hp) (.refl _)
    exact ⟨p, _, _, _, _, { hstop with gains := hstop.gains.congr rfl }⟩

/-! ### What is recorded -/

/-- A document asks for a layout: the dependency that is recorded when the main document is called `name`. -/
def asking (name : Option String) (a : Document × String) : Dependency :=
  ⟨a.2, a.1.name name⟩

/-- The documents and the layouts that they ask for, in the order in which they are recorded, where the
document `d` has the sources: what a layout asks for comes right before that it was asked for itself. -/
inductive Records (c : Resolver) : (d : Document) → (sources : List String) → List (Document × String) → Prop
  | nil {d} : Records c d [] []
  | cons {d source sources text document inner rest} :
      c.library.read (c.layoutPath source) c.encoding = .ok text →
      Markup.parse text (some (c.layoutPath source)) = .ok document →
      Records c (.layout (c.layoutPath source)) (Markup.sourcesAll document) inner →
      Records c d sources rest →
      Records c d (source :: sources) (inner ++ (d, c.layoutPath source) :: rest)

variable {d : Document} {sources sources' : List String} {asked asked' : List (Document × String)}
  {name : Option String} {main : List Markup}

theorem Records.append (h : c.Records d sources asked) (h' : c.Records d sources' asked') :
    c.Records d (sources ++ sources') (asked ++ asked') := by
  induction h with
  | nil => exact h'
  | cons hr hp hi _ _ ih =>
    rw [List.append_assoc]
    exact .cons hr hp hi (ih h')

/-- Each document asks for layouts that it extends. -/
theorem Records.extends (h : c.Records d sources asked) {document : List Markup}
    (hd : c.contents? main d = some document) (hs : sources ⊆ Markup.sourcesAll document) :
    ∀ a ∈ asked, c.Extends main a.1 (.layout a.2) := by
  induction h generalizing document with
  | nil => exact fun _ h => nomatch h
  | cons hr hp _ _ ih ih' =>
    intro a ha
    rcases List.mem_append.1 ha with ha | ha
    · exact ih (contents?_layout hr hp) (fun _ h => h) a ha
    · rcases List.mem_cons.1 ha with rfl | ha
      · exact ⟨document, _, hd, hs (List.mem_cons_self ..), rfl⟩
      · exact ih' hd (fun _ h => hs (List.mem_cons_of_mem _ h)) a ha

/-- A layout that asks for another is asked for later, unless it is where all began. -/
theorem Records.followed (h : c.Records d sources asked) {before after : List (Document × String)}
    {path file : String} (ha : asked = before ++ (.layout path, file) :: after) :
    d = .layout path ∨ path ∈ after.map Prod.snd := by
  induction h generalizing before after with
  | nil => simp at ha
  | @cons d source _ _ _ inner rest _ _ _ _ ih ih' =>
    rcases List.append_eq_append_iff.1 ha with ⟨more, hb, hm⟩ | ⟨more, hi, hm⟩
    · cases more with
      | nil =>
        cases hm
        exact .inl rfl
      | cons a more =>
        cases hm
        exact ih' rfl
    · cases more with
      | nil =>
        cases hm
        exact .inl rfl
      | cons a more =>
        rw [List.cons_append, List.cons.injEq] at hm
        obtain ⟨rfl, rfl⟩ := hm
        refine .inr ?_
        rw [List.map_append, List.map_cons, List.mem_append, List.mem_cons]
        rcases ih hi with hd | hmore
        · cases hd
          exact .inr (.inl rfl)
        · exact .inl hmore

theorem sources_markup (o : Outline) :
    o.markup.sources = o.head.source?.toList ++ Markup.sourcesAll (Outline.markupAll o.content) := by
  cases o with
  | leaf id h => exact (List.append_nil _).symm
  | branch id h content => rfl

/-- What a call records that comes to nodes, where `name` is what the main document is called. -/
def Enters (c : Resolver) (name : Option String) (call : Call) (r r' : Run) : Prop :=
  match call with
  | .tree document ids => ∀ d os, d.name name = document → os.map Outline.id = ids → r.store.Holds os →
      ∃ asked, c.Records d (Markup.sourcesAll (Outline.markupAll os)) asked ∧
        r'.dependencies = r.dependencies ++ asked.map (asking name)
  | .node document id => ∀ d o, d.name name = document → o.id = id → r.store.Holds [o] →
      ∃ asked, c.Records d o.markup.sources asked ∧
        r'.dependencies = r.dependencies ++ asked.map (asking name)
  | .layout _ path => ∃ text document asked, c.library.read path c.encoding = .ok text ∧
      Markup.parse text (some path) = .ok document ∧
      c.Records (.layout path) (Markup.sourcesAll document) asked ∧
      r'.dependencies = r.dependencies ++ asked.map (asking name)

theorem Resolves.enters (h : c.Resolves call r out r') (ht : c.tracking) (name : Option String) :
    ∀ found, out = .ok found → r.store.Sound → c.Enters name call r r' := by
  induction h with
  | nil =>
    intro _ _ _ d os _ hid _
    rw [List.map_eq_nil_iff.1 hid]
    exact ⟨[], .nil, (List.append_nil _).symm⟩
  | @cons _ _ _ _ here r₁ out _ h₁ _ ih₁ ih₂ =>
    intro found he hs d os hd hid ho
    obtain ⟨o, os, rfl, rfl, hid'⟩ := List.map_eq_cons_iff.1 hid
    obtain ⟨hc, hs₁, -⟩ := h₁.change [o] rfl ho.first hs
    cases out with
    | error e => cases he
    | ok after =>
      obtain ⟨asked, hr, hg⟩ := ih₁ here rfl hs d o hd rfl ho.first
      obtain ⟨asked', hr', hg'⟩ := ih₂ after rfl hs₁ d os hd hid' (hc.holds_rest ho)
      refine ⟨asked ++ asked', hr.append hr', ?_⟩
      rw [hg', hg, List.map_append, List.append_assoc]
  | keep hx hc =>
    intro _ _ _ d o _ hid ho
    subst hid
    rw [ho.root.head] at hx
    rw [ho.root.content, List.map_eq_nil_iff] at hc
    rw [sources_markup, hc, Head.source?, hx]
    exact ⟨[], .nil, (List.append_nil _).symm⟩
  | inside hx _ _ ih =>
    intro _ _ hs d o hd hid ho
    subst hid
    rw [ho.root.head] at hx
    rw [sources_markup, Head.source?, hx]
    exact ih _ rfl hs d o.content hd ho.root.content.symm ho.content
  | @merge document _ _ source layout r₁ template _ _ _ hx _ h₁ _ hm ih₁ ih₂ =>
    intro _ _ hs d o hd hid ho
    subst hid
    obtain ⟨hc, hs₁, -⟩ := h₁.change [] rfl (.nil _) hs
    have held := hc.holds_all ho
    rw [store_recorded] at ih₂
    obtain ⟨text, content, inner, hread, hparse, hr, hg⟩ := ih₁ layout rfl hs
    obtain ⟨rest, hr', hg'⟩ := ih₂ template rfl hs₁ d o.content hd held.root.content.symm
      (by rw [store_recorded]; exact held.content)
    rw [ho.root.head] at hx
    refine ⟨inner ++ (d, c.layoutPath source) :: rest, ?_, ?_⟩
    · rw [sources_markup, hx]
      exact .cons hread hparse hr hr'
    · have hrecord := (gains_recorded ht r₁ (c.layoutPath source) document).dependencies
      rw [(gains_merge hm).dependencies, hg', hrecord, hg]
      simp [asking, hd]
  | @load _ path _ text _ r₁ found _ hread hparse _ ih =>
    intro _ _ hs
    obtain ⟨document, os, hd, rfl, hid, hst, hs₁⟩ := parse_stored hparse
    obtain ⟨asked, hr, hg⟩ := ih found rfl (hs₁ hs) (.layout path) os rfl hid hst.holds
    refine ⟨text, _, asked, hread, hd, hr, ?_⟩
    have hopened := ((gains_opened hparse).trans (Run.gains_enter r₁ path)).dependencies
    rw [(Run.gains_leave ..).dependencies, hg, hopened]
    simp
  | _ =>
    intro _ he
    cases he

/-! ### Whole resolutions -/

/-- The books of a resolution that has come to nodes. All that was asked for has been read, and has been
recorded once, for the document that asked for it; and each layout that asked for another was recorded
after that. -/
structure Balanced (c : Resolver) (document : Option String) (main : List Markup) (r r' : Run)
    (loads : List (String × String)) (recorded : List Dependency) (asked : List (Document × String)) :
    Prop where
  gains : r.Gains r' loads (loads.map fun l => some l.1) recorded
  balance : (recorded.map Dependency.file).Perm (loads.map Prod.fst)
  records : c.Records .main (Markup.sourcesAll main) asked
  parents : recorded = asked.map (asking document)
  extends_of_mem : ∀ a ∈ asked, c.Extends main a.1 (.layout a.2)
  followed : ∀ before path file after, asked = before ++ (.layout path, file) :: after →
    path ∈ after.map Prod.snd

variable {os : List Outline} {document : Option String} {found : List NodeId}

theorem Resolves.balanced (h : c.Resolves (.tree document (os.map Outline.id)) r (.ok found) r')
    (ht : c.tracking) (ho : r.store.Holds os) (hs : r.store.Sound) :
    ∃ loads recorded asked, c.Balanced document (Outline.markupAll os) r r' loads recorded asked := by
  obtain ⟨loads, recorded, hg, hb⟩ := h.accounts ht
  obtain ⟨asked, hr, hd⟩ := h.enters ht document found rfl hs .main os rfl rfl ho
  refine ⟨loads, recorded, asked, hg, ?_, hr, ?_, hr.extends rfl fun _ h => h, ?_⟩
  · simpa [Call.asked] using hb.symm
  · exact List.append_cancel_left (hg.dependencies.symm.trans hd)
  · intro before path file after ha
    exact (hr.followed ha).resolve_left Document.noConfusion

/-- A chain that is refused ends in a layout that is in progress, and before that it tells what is. -/
theorem Stops.circular {chain : List String} {l : Option Location}
    (h : c.Stops call r (.issue (.circular chain l)) r' p active loads parses recorded) :
    ∃ path, chain = r.chain ++ active ++ [path] ∧
      (loads.map Prod.fst).Perm (recorded.map Dependency.file ++ active) := by
  obtain ⟨-, -, hbreaks, hchain, hbalance, -, -⟩ := h
  cases hbreaks with
  | circular hx hp => exact ⟨_, by rw [← hchain], by simpa [Call.asked] using hbalance⟩
  | merge _ _ _ _ hm => exact absurd rfl (merge_ne_circular hm)
  | unparsed _ hp => exact absurd rfl (parse_ne_circular hp)

/-- All that was asked for has been read, but for a layout that is not there. -/
theorem Stops.parses_eq (h : c.Stops call r e r' p active loads parses recorded) :
    (∀ fault, e = .file fault → parses = loads.dropLast.map fun l => some l.1) ∧
      ((∀ fault, e ≠ .file fault) → parses = loads.map fun l => some l.1) := by
  have hread := h.read
  constructor
  · rintro fault rfl
    obtain ⟨path, hp⟩ : ∃ path, p.1.unread (.file fault) = [path] := by
      have hbreaks := h.breaks
      cases hbreaks with
      | merge _ _ _ _ hm =>
        rw [Step.run_merge] at hm
        split at hm <;> exact nomatch hm
      | unread => exact ⟨_, rfl⟩
      | unparsed _ hp => exact absurd rfl (parse_ne_file hp)
    rw [List.map_dropLast, hread, hp]
    simp
  · intro hf
    have hp : p.1.unread e = [] := by
      cases e with
      | file fault => exact absurd rfl (hf fault)
      | _ => cases p.1 <;> rfl
    rw [hread, hp]
    simp

/-- Dependencies account for what a resolution asks for, on any tree, whatever was in progress and done before.
When it comes to nodes, the books are balanced. When it fails, it does so in a call `p`, and what was asked
for is what was recorded, what is in progress there, and the layout that `p` is about to open if it is about to
open one, which is then the last that was asked for; a chain that is refused shows what is in progress. Layouts
are read in the order in which they are asked for, and only one that is not there is not read. Without
tracking, everything is the same but for the records. -/
theorem accounts_for_loads (ht : c.tracking) (ho : r.store.Holds os) (hs : r.store.Sound)
    (document : Option String) :
    let tree := os.map Outline.id
    let done := (c.resolve document tree).run r
    let silent := ({ c with tracking := false }.resolve document tree).run r
    (∀ found, done.1 = .ok found → ∃ loads recorded asked,
      c.Balanced document (Outline.markupAll os) r done.2 loads recorded asked) ∧
    (∀ e, done.1 = .error e → ∃ p active loads parses recorded,
      c.Stops (.tree document tree) r e done.2 p active loads parses recorded ∧
      (∀ chain l, e = .issue (.circular chain l) → ∃ path, chain = r.chain ++ active ++ [path] ∧
        (loads.map Prod.fst).Perm (recorded.map Dependency.file ++ active)) ∧
      (∀ fault, e = .file fault → parses = loads.dropLast.map fun l => some l.1) ∧
      ((∀ fault, e ≠ .file fault) → parses = loads.map fun l => some l.1)) ∧
    silent.1 = done.1 ∧ silent.2.store = done.2.store ∧ silent.2.loads = done.2.loads ∧
      silent.2.parses = done.2.parses := by
  intro tree done silent
  have hr : c.Resolves (.tree document tree) r done.1 done.2 := follows_resolve ho hs
  refine ⟨?_, ?_, ?_⟩
  · intro found hf
    rw [hf] at hr
    exact hr.balanced ht ho hs
  · intro e he
    rw [he] at hr
    obtain ⟨p, active, loads, parses, recorded, hstop⟩ := hr.accounts ht
    refine ⟨p, active, loads, parses, recorded, hstop, ?_, hstop.parses_eq⟩
    rintro chain l rfl
    exact hstop.circular
  · have hsilent : ({ c with tracking := false } : Resolver).Resolves (.tree document tree) r silent.1 silent.2 :=
      follows_resolve ho hs
    obtain ⟨r', hr', ha⟩ := hr.transfer c.library false r (.refl r) fun _ _ => rfl
    obtain ⟨hout, rfl⟩ := hsilent.unique hr'
    exact ⟨hout, ha.store, ha.loads, ha.parses⟩

/-- A layout that extends another, extended by a document of the name `m` whose template extends that other
once more; and one whose template extends a layout that is not there. -/
theorem accounts_for_loads_template :
    let c := (Setting.ofTexts [("/w/b", "<extends src=c></extends>"), ("/w/c", "")]).flattening none
    let read (text : String) := (Step.parse text none).run {}
    let text := "<extends src=b><extends src=c></extends></extends>"
    let text' := "<extends src=b><extends src=d></extends></extends>"
    (∃ os asked, (read text).2.store.Holds os ∧ os.map Outline.id = [1] ∧
      c.Balanced (some "m") (Outline.markupAll os) (read text).2 ((c.resolve (some "m") [1]).run (read text).2).2
        [("/w/b", "utf-8"), ("/w/c", "utf-8"), ("/w/c", "utf-8")]
        [⟨"/w/c", some "/w/b"⟩, ⟨"/w/b", some "m"⟩, ⟨"/w/c", some "m"⟩] asked) ∧
    ∃ e p active parses,
      c.Stops (.tree (some "m") [1]) (read text').2 e ((c.resolve (some "m") [1]).run (read text').2).2 p active
        [("/w/b", "utf-8"), ("/w/c", "utf-8"), ("/w/d", "utf-8")] parses
        [⟨"/w/c", some "/w/b"⟩, ⟨"/w/b", some "m"⟩] := by
  intro c read text text'
  have held (text : String) (tree : List NodeId) (h : (read text).1.toOption = some tree) :
      ∃ os : List Outline, os.map Outline.id = tree ∧ (read text).2.store.Holds os ∧
        (read text).2.store.Sound := by
    obtain ⟨_, os, -, -, hid, hst, hs⟩ := parse_stored (Prod.ext (ok_of_toOption h) rfl)
    exact ⟨os, hid, hst.holds, hs Store.sound_empty⟩
  constructor
  · obtain ⟨os, hid, ho, hs⟩ := held text [1] (by decide +kernel)
    obtain ⟨hok, -⟩ := accounts_for_loads (c := c) rfl ho hs (some "m")
    rw [hid] at hok
    obtain ⟨hfound, hl, hd⟩ : ((c.resolve (some "m") [1]).run (read text).2).1.toOption = some [] ∧
        ((c.resolve (some "m") [1]).run (read text).2).2.loads =
          (read text).2.loads ++ [("/w/b", "utf-8"), ("/w/c", "utf-8"), ("/w/c", "utf-8")] ∧
        ((c.resolve (some "m") [1]).run (read text).2).2.dependencies = (read text).2.dependencies ++
          [⟨"/w/c", some "/w/b"⟩, ⟨"/w/b", some "m"⟩, ⟨"/w/c", some "m"⟩] := by
      decide +kernel
    obtain ⟨loads, recorded, asked, hb⟩ := hok _ (ok_of_toOption hfound)
    refine ⟨os, asked, ho, hid, ?_⟩
    rwa [List.append_cancel_left (hb.gains.loads.symm.trans hl),
      List.append_cancel_left (hb.gains.dependencies.symm.trans hd)] at hb
  · obtain ⟨os, hid, ho, hs⟩ := held text' [1] (by decide +kernel)
    obtain ⟨-, herror, -⟩ := accounts_for_loads (c := c) rfl ho hs (some "m")
    rw [hid] at herror
    obtain ⟨hfound, hl, hd⟩ : ((c.resolve (some "m") [1]).run (read text').2).1.toOption = none ∧
        ((c.resolve (some "m") [1]).run (read text').2).2.loads =
          (read text').2.loads ++ [("/w/b", "utf-8"), ("/w/c", "utf-8"), ("/w/d", "utf-8")] ∧
        ((c.resolve (some "m") [1]).run (read text').2).2.dependencies =
          (read text').2.dependencies ++ [⟨"/w/c", some "/w/b"⟩, ⟨"/w/b", some "m"⟩] := by
      decide +kernel
    obtain ⟨e, he⟩ : ∃ e, ((c.resolve (some "m") [1]).run (read text').2).1 = .error e := by
      cases hout : ((c.resolve (some "m") [1]).run (read text').2).1 with
      | error e => exact ⟨e, rfl⟩
      | ok found => exact nomatch (congrArg Except.toOption hout).symm.trans hfound
    obtain ⟨p, active, loads, parses, recorded, hstop, -⟩ := herror e he
    refine ⟨e, p, active, parses, ?_⟩
    rwa [List.append_cancel_left (hstop.gains.loads.symm.trans hl),
      List.append_cancel_left (hstop.gains.dependencies.symm.trans hd)] at hstop

end Resolver

end LayoutInheritance
