import LayoutInheritance.Proofs.Inheritance.Document

/-! What a resolution looks at. It reads the library only where it asks for a layout, and what it has
recorded it never reads. So a resolver with another library does the same, step by step, as long as both
libraries agree on the layouts that are asked for, and so does one that records no dependencies, but for
these. -/

namespace LayoutInheritance

/-- Whether the event is that a dependency was recorded. -/
def Event.isRecord : Event → Bool
  | depends _ => true
  | _ => false

namespace Run

variable {r r₁ s s₁ : Run}

/-- What has been done, apart from what was recorded. -/
def undertaken (r : Run) : List Event :=
  r.history.filter (!·.isRecord)

/-- Two runs are alike when at most the dependencies that they have recorded differ, and not even these
when both are `tracked` alike. -/
structure Alike (tracked : Prop) (r s : Run) : Prop where
  store : s.store = r.store
  chain : s.chain = r.chain
  undertaken : s.undertaken = r.undertaken
  history : tracked → s.history = r.history

variable {tracked : Prop}

theorem Alike.refl (r : Run) : Alike tracked r r :=
  ⟨rfl, rfl, rfl, fun _ => rfl⟩

theorem Alike.eq (h : Alike tracked r s) (ht : tracked) : s = r := by
  obtain ⟨store, chain, history⟩ := s
  obtain ⟨rfl, rfl, -, hh⟩ := h
  obtain rfl := hh ht
  rfl

theorem Alike.note (h : Alike tracked r s) (events : List Event) :
    Alike tracked (r.note events) (s.note events) where
  store := h.store
  chain := h.chain
  undertaken := by
    have hu := h.undertaken
    simp only [Run.undertaken, history_note, List.filter_append] at hu ⊢
    rw [hu]
  history ht := congrArg (· ++ events) (h.history ht)

theorem Alike.withStore (h : Alike tracked r s) (store : Store) :
    Alike tracked { r with store } { s with store } :=
  { h with store := rfl }

theorem Alike.enter (h : Alike tracked r s) (path : String) : Alike tracked (r.enter path) (s.enter path) :=
  { h.note [.entered path] with chain := congrArg (· ++ [path]) h.chain }

theorem Alike.pop (h : Alike tracked r s) : Alike tracked r.pop s.pop :=
  { h with chain := congrArg List.dropLast h.chain }

/-- Nothing but records tells alike runs apart. -/
theorem Alike.filterMap_history {α : Type} (h : Alike tracked r s) {f : Event → Option α}
    (hf : ∀ d, f (.depends d) = none) : s.history.filterMap f = r.history.filterMap f := by
  have skip (events : List Event) : events.filterMap f = (events.filter (!·.isRecord)).filterMap f := by
    rw [List.filterMap_filter]
    apply List.filterMap_congr
    intro e _
    cases e with
    | depends d => exact hf d
    | _ => rfl
  rw [skip s.history, skip r.history]
  exact congrArg (List.filterMap f) h.undertaken

theorem Alike.loads (h : Alike tracked r s) : s.loads = r.loads :=
  h.filterMap_history fun _ => rfl

theorem Alike.parses (h : Alike tracked r s) : s.parses = r.parses :=
  h.filterMap_history fun _ => rfl

/-- Two libraries agree on all that the run has asked for. -/
def ReadAlike (r : Run) (library library' : Library) : Prop :=
  ∀ l ∈ r.loads, library'.read l.1 l.2 = library.read l.1 l.2

variable {library library' : Library}

theorem ReadAlike.before (h : r₁.ReadAlike library library') (hr : r.history <+: r₁.history) :
    r.ReadAlike library library' :=
  fun l hl => h l ((hr.sublist.filterMap _).subset hl)

theorem ReadAlike.read {path encoding : String} {document : Option String} {done : List Event}
    (h : r₁.ReadAlike library library') (hr : done ++ [.loading path encoding document] <+: r₁.history) :
    library'.read path encoding = library.read path encoding := by
  apply h (path, encoding)
  refine (hr.sublist.filterMap _).subset ?_
  simp

end Run

namespace Resolver

open Run (Alike)

variable {c : Resolver} {r r' s : Run} {out : Except Failure (List NodeId)} {tracked : Prop}

theorem parse_alike {text : String} {filename : Option String} (h : Alike tracked r s)
    (hp : (Step.parse text filename).run r = (out, r')) :
    ∃ s', (Step.parse text filename).run s = (out, s') ∧ Alike tracked r' s' := by
  rw [Step.run_parse] at hp ⊢
  rw [h.store]
  split at hp <;> cases hp
  · exact ⟨_, rfl, h.note _⟩
  · exact ⟨_, rfl, (h.note _).withStore _⟩

theorem merge_alike {layout template : List NodeId} (h : Alike tracked r s)
    (hm : (Step.merge layout template).run r = (out, r')) :
    ∃ s', (Step.merge layout template).run s = (out, s') ∧ Alike tracked r' s' := by
  rw [Step.run_merge] at hm ⊢
  rw [h.store]
  cases hm
  exact ⟨_, rfl, (h.note _).withStore _⟩

theorem recorded_alike {library : Library} {tracking : Bool} (h : Alike (tracking = c.tracking) r s)
    (path : String) (document : Option String) :
    Alike (tracking = c.tracking) (c.recorded r path document)
      ({ c with library, tracking : Resolver }.recorded s path document) := by
  refine ⟨?_, ?_, ?_, ?_⟩
  · rw [store_recorded, store_recorded, h.store]
  · rw [chain_recorded, chain_recorded, h.chain]
  · have hu := h.undertaken
    simp only [Run.undertaken, history_recorded, List.filter_append] at hu ⊢
    rw [hu]
    congr 1
    cases tracking <;> cases c.tracking <;> rfl
  · intro ht
    rw [history_recorded, history_recorded, h.history ht, ht]

theorem prefix_merge {layout template : List NodeId} (hm : (Step.merge layout template).run r = (out, r')) :
    r.history <+: r'.history := by
  rw [(merge_run hm).2.1]
  exact List.prefix_append _ _

/-- A layout is asked for before it is read. -/
theorem prefix_parse {text path : String} {document filename : Option String}
    (hp : (Step.parse text filename).run (r.note [.loading path c.encoding document]) = (out, r')) :
    r.history ++ [.loading path c.encoding document] <+: r'.history := by
  rw [parse_history hp]
  exact List.prefix_append _ _

/-- A resolver with another library does the same when both libraries agree on what is asked for, whether
dependencies are recorded or not. -/
theorem Resolves.transfer {call : Call} (h : c.Resolves call r out r') (library : Library) (tracking : Bool) :
    ∀ s, Alike (tracking = c.tracking) r s → r'.ReadAlike c.library library →
      ∃ s', ({ c with library, tracking } : Resolver).Resolves call s out s' ∧
        Alike (tracking = c.tracking) r' s' := by
  induction h with
  | nil => exact fun s ha _ => ⟨s, .nil, ha⟩
  | stop _ ih =>
    intro s ha hl
    obtain ⟨s₁, h₁, ha₁⟩ := ih s ha hl
    exact ⟨s₁, .stop h₁, ha₁⟩
  | cons _ h₂ ih₁ ih₂ =>
    intro s ha hl
    obtain ⟨s₁, h₁, ha₁⟩ := ih₁ s ha (hl.before h₂.history)
    obtain ⟨s₂, h₂, ha₂⟩ := ih₂ s₁ ha₁ hl
    exact ⟨s₂, .cons h₁ h₂, ha₂⟩
  | keep he hc =>
    intro s ha _
    rw [← ha.store] at he hc
    exact ⟨s, .keep he hc, ha⟩
  | inside he hc _ ih =>
    intro s ha hl
    obtain ⟨s₁, h₁, ha₁⟩ := ih s ha hl
    rw [← ha.store] at he hc h₁
    refine ⟨_, .inside he hc h₁, ?_⟩
    rw [ha₁.store]
    exact ha₁.withStore _
  | insideStop he hc _ ih =>
    intro s ha hl
    obtain ⟨s₁, h₁, ha₁⟩ := ih s ha hl
    rw [← ha.store] at he hc h₁
    exact ⟨s₁, .insideStop he hc h₁, ha₁⟩
  | noSource he hs =>
    intro s ha _
    rw [← ha.store] at he hs ⊢
    exact ⟨s, .noSource he hs, ha⟩
  | circular hs hp =>
    intro s ha _
    rw [← ha.store] at hs ⊢
    rw [← ha.chain] at hp ⊢
    exact ⟨s, .circular hs hp, ha⟩
  | layoutStop hs hp _ ih =>
    intro s ha hl
    obtain ⟨s₁, h₁, ha₁⟩ := ih s ha hl
    rw [← ha.store] at hs
    rw [← ha.chain] at hp
    exact ⟨s₁, .layoutStop hs hp h₁, ha₁⟩
  | templateStop hs hp _ h₂ ih₁ ih₂ =>
    intro s ha hl
    obtain ⟨s₁, h₁, ha₁⟩ := ih₁ s ha (hl.before (prefix_recorded.trans h₂.history))
    obtain ⟨s₂, h₂, ha₂⟩ := ih₂ _ (recorded_alike ha₁ ..) hl
    rw [← ha.store] at hs
    rw [← ha.chain] at hp
    rw [← ha₁.store] at h₂
    exact ⟨s₂, .templateStop hs hp h₁ h₂, ha₂⟩
  | merge hs hp _ h₂ hm ih₁ ih₂ =>
    intro s ha hl
    have hl₂ := hl.before (prefix_merge hm)
    obtain ⟨s₁, h₁, ha₁⟩ := ih₁ s ha (hl₂.before (prefix_recorded.trans h₂.history))
    obtain ⟨s₂, h₂, ha₂⟩ := ih₂ _ (recorded_alike ha₁ ..) hl₂
    obtain ⟨s₃, hm, ha₃⟩ := merge_alike ha₂ hm
    rw [← ha.store] at hs
    rw [← ha.chain] at hp
    rw [← ha₁.store] at h₂
    exact ⟨s₃, .merge hs hp h₁ h₂ hm, ha₃⟩
  | unread hr =>
    intro s ha hl
    have hread := (hl.read List.prefix_rfl).trans hr
    exact ⟨_, .unread hread, ha.note _⟩
  | unparsed hr hp =>
    intro s ha hl
    have hread := (hl.read (prefix_parse hp)).trans hr
    obtain ⟨s₁, hp, ha₁⟩ := parse_alike (ha.note _) hp
    exact ⟨s₁, .unparsed hread hp, ha₁⟩
  | load hr hp h ih =>
    intro s ha hl
    have hl₂ := hl.before (List.prefix_append _ _)
    have asked := (prefix_parse hp).trans ((List.prefix_append _ _).trans h.history)
    have hread := (hl₂.read asked).trans hr
    obtain ⟨s₁, hp, ha₁⟩ := parse_alike (ha.note _) hp
    obtain ⟨s₂, h₂, ha₂⟩ := ih _ (ha₁.enter _) hl₂
    exact ⟨_, .load hread hp h₂, (ha₂.note _).pop⟩
  | loadStop hr hp h ih =>
    intro s ha hl
    have asked := (prefix_parse hp).trans ((List.prefix_append _ _).trans h.history)
    have hread := (hl.read asked).trans hr
    obtain ⟨s₁, hp, ha₁⟩ := parse_alike (ha.note _) hp
    obtain ⟨s₂, h₂, ha₂⟩ := ih _ (ha₁.enter _) hl
    exact ⟨_, .loadStop hread hp h₂, ha₂.pop⟩

end Resolver

end LayoutInheritance
