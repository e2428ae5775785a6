import LayoutInheritance.Proofs.Block.Shift
import LayoutInheritance.Proofs.Inheritance.Effects

/-! Resolution among other nodes. What a call does is the same in a store that has more in it: only the identities
of nodes are shifted. And a layout that has come out once comes out again when there is more in the library. -/

namespace LayoutInheritance

open Outline (ids)

/-- Runs with the same layouts in progress, whose stores are alike but for a shift. The second has done the same as
the first, after it had done what `before` says. -/
structure Run.Shifted (k : ℕ) (before : List Event) (r t : Run) : Prop where
  store : Store.Shifted k r.store t.store
  chain : t.chain = r.chain
  history : t.history = before ++ r.history

namespace Run.Shifted

variable {k : ℕ} {before : List Event} {r t : Run}

theorem note (h : Shifted k before r t) (events : List Event) :
    Shifted k before (r.note events) (t.note events) where
  store := h.store
  chain := h.chain
  history := by rw [history_note, history_note, h.history, List.append_assoc]

theorem enter (h : Shifted k before r t) (path : String) : Shifted k before (r.enter path) (t.enter path) :=
  { h.note [.entered path] with chain := congrArg (· ++ [path]) h.chain }

theorem pop (h : Shifted k before r t) : Shifted k before r.pop t.pop :=
  { h with chain := congrArg List.dropLast h.chain }

theorem leave (h : Shifted k before r t) (path : String) : Shifted k before (r.leave path) (t.leave path) :=
  (h.note [.left path]).pop

end Run.Shifted

/-- The outcome with shifted identities. -/
def shiftOutcome (k : ℕ) (out : Except Failure (List NodeId)) : Except Failure (List NodeId) :=
  out.map (·.map (· + k))

namespace Resolver

variable {c : Resolver} {r r' t : Run} {k : ℕ} {before : List Event} {out : Except Failure (List NodeId)} {path : String}
  {document : Option String}

/-- The call on shifted nodes. -/
def Call.shift (k : ℕ) : Call → Call
  | tree document ids => tree document (ids.map (· + k))
  | node document id => node document (id + k)
  | layout document path => layout document path

theorem shifted_recorded (h : Run.Shifted k before r t) :
    Run.Shifted k before (c.recorded r path document) (c.recorded t path document) where
  store := by
    rw [store_recorded, store_recorded]
    exact h.store
  chain := by
    rw [chain_recorded, chain_recorded]
    exact h.chain
  history := by rw [history_recorded, history_recorded, h.history, List.append_assoc]

theorem parse_shift {text : String} {filename : Option String} (h : Run.Shifted k before r t)
    (hp : (Step.parse text filename).run r = (out, r')) :
    ∃ t', (Step.parse text filename).run t = (shiftOutcome k out, t') ∧ Run.Shifted k before r' t' := by
  rw [Step.run_parse] at hp ⊢
  cases hd : (Markup.read text filename).document with
  | error fault =>
    rw [hd] at hp
    cases hp
    exact ⟨_, rfl, h.note _⟩
  | ok ms =>
    rw [hd] at hp
    cases hp
    obtain ⟨hids, hs⟩ := h.store.addAll ms
    exact ⟨_, Prod.ext (congrArg Except.ok hids) rfl, { h.note _ with store := hs }⟩

theorem merge_shift {layout template : List NodeId} (h : Run.Shifted k before r t) (hs : r.store.Sound)
    (hl : ∀ x ∈ layout, x < r.store.size) (ht : ∀ x ∈ template, x < r.store.size)
    (hm : (Step.merge layout template).run r = (out, r')) :
    ∃ t', (Step.merge (layout.map (· + k)) (template.map (· + k))).run t = (shiftOutcome k out, t') ∧
      Run.Shifted k before r' t' := by
  obtain ⟨hissue, hfilled, hstore⟩ := h.store.merge hs hl ht
  have hevents : Step.mergeEvents t.store (layout.map (· + k)) (template.map (· + k)) =
      Step.mergeEvents r.store layout template := by
    rw [Step.mergeEvents, h.store.document hs hl, h.store.document hs ht, hfilled, Step.mergeEvents]
  rw [Step.run_merge] at hm ⊢
  rw [hevents]
  cases hm
  refine ⟨_, Prod.ext ?_ rfl, { h.note _ with store := hstore }⟩
  simp only [hissue]
  cases (r.store.merge layout template).issue? <;> rfl

/-- A call does the same on shifted nodes. -/
theorem Resolves.shift {call : Call} (h : c.Resolves call r out r') :
    ∀ os : List Outline, os.map Outline.id = call.roots → r.store.Holds os → r.store.Sound →
      ∀ {t : Run}, Run.Shifted k before r t →
        ∃ t', c.Resolves (call.shift k) t (shiftOutcome k out) t' ∧ Run.Shifted k before r' t' := by
  induction h with
  | nil => exact fun _ _ _ _ t ht => ⟨t, .nil, ht⟩
  | stop _ ih =>
    intro os he ho hs t ht
    obtain ⟨o, os, rfl, rfl, -⟩ := List.map_eq_cons_iff.1 he
    obtain ⟨t₁, h₁, ht₁⟩ := ih [o] rfl ho.first hs ht
    exact ⟨t₁, .stop h₁, ht₁⟩
  | @cons _ _ _ _ here _ out _ h₁ _ ih₁ ih₂ =>
    intro os he ho hs t ht
    obtain ⟨o, os, rfl, rfl, he'⟩ := List.map_eq_cons_iff.1 he
    obtain ⟨hc₁, hs₁, -⟩ := h₁.change [o] rfl ho.first hs
    obtain ⟨t₁, h₁, ht₁⟩ := ih₁ [o] rfl ho.first hs ht
    obtain ⟨t₂, h₂, ht₂⟩ := ih₂ os he' (hc₁.holds_rest ho) hs₁ ht₁
    refine ⟨t₂, ?_, ht₂⟩
    have hout : shiftOutcome k (out.map (here ++ ·)) = (shiftOutcome k out).map (here.map (· + k) ++ ·) := by
      cases out with
      | error e => rfl
      | ok after => exact congrArg Except.ok List.map_append
    rw [hout]
    exact .cons h₁ h₂
  | keep hx hc =>
    intro os _ _ _ t ht
    refine ⟨t, .keep ?_ ?_, ht⟩
    · rw [ht.store.head, hx]
    · rw [ht.store.content, hc, List.map_nil]
  | inside hx hc h ih =>
    intro os he ho hs t ht
    obtain ⟨o, rfl, rfl⟩ := List.map_eq_singleton_iff.1 he
    obtain ⟨t₁, h₁, ht₁⟩ := ih o.content ho.root.content.symm ho.content hs ht
    rw [Call.shift, ← ht.store.content] at h₁
    refine ⟨_, .inside ?_ ?_ h₁, ht₁.store.setContent _ _, ht₁.chain, ht₁.history⟩
    · rw [ht.store.head, hx]
    · rwa [ht.store.content, ne_eq, List.map_eq_nil_iff]
  | insideStop hx hc h ih =>
    intro os he ho hs t ht
    obtain ⟨o, rfl, rfl⟩ := List.map_eq_singleton_iff.1 he
    obtain ⟨t₁, h₁, ht₁⟩ := ih o.content ho.root.content.symm ho.content hs ht
    rw [Call.shift, ← ht.store.content] at h₁
    refine ⟨t₁, .insideStop ?_ ?_ h₁, ht₁⟩
    · rw [ht.store.head, hx]
    · rwa [ht.store.content, ne_eq, List.map_eq_nil_iff]
  | noSource hx hsrc =>
    intro os _ _ _ t ht
    rw [← ht.store.head] at hx hsrc ⊢
    exact ⟨t, .noSource hx hsrc, ht⟩
  | circular hsrc hp =>
    intro os _ _ _ t ht
    rw [← ht.store.head] at hsrc ⊢
    rw [← ht.chain] at hp ⊢
    exact ⟨t, .circular hsrc hp, ht⟩
  | layoutStop hsrc hp _ ih =>
    intro os _ _ hs t ht
    obtain ⟨t₁, h₁, ht₁⟩ := ih [] rfl (.nil _) hs ht
    rw [← ht.store.head] at hsrc
    rw [← ht.chain] at hp
    exact ⟨t₁, .layoutStop hsrc hp h₁, ht₁⟩
  | templateStop hsrc hp h₁ h₂ ih₁ ih₂ =>
    intro os he ho hs t ht
    obtain ⟨o, rfl, rfl⟩ := List.map_eq_singleton_iff.1 he
    obtain ⟨hc₁, hs₁, -⟩ := h₁.change [] rfl (.nil _) hs
    have held := (hc₁.holds_all ho).content
    have hroots := (hc₁.holds_all ho).root.content
    obtain ⟨t₁, h₁, ht₁⟩ := ih₁ [] rfl (.nil _) hs ht
    rw [store_recorded] at ih₂
    obtain ⟨t₂, h₂, ht₂⟩ := ih₂ o.content hroots.symm held hs₁ (shifted_recorded ht₁)
    rw [Call.shift, ← ht₁.store.content] at h₂
    rw [← ht.store.head] at hsrc
    rw [← ht.chain] at hp
    exact ⟨t₂, .templateStop hsrc hp h₁ h₂, ht₂⟩
  | @merge _ _ _ _ layout _ template _ _ _ hsrc hp h₁ h₂ hm ih₁ ih₂ =>
    intro os he ho hs t ht
    obtain ⟨o, rfl, rfl⟩ := List.map_eq_singleton_iff.1 he
    obtain ⟨hc₁, hs₁, hr₁⟩ := h₁.change [] rfl (.nil _) hs
    have held := (hc₁.holds_all ho).content
    have hroots := (hc₁.holds_all ho).root.content
    obtain ⟨t₁, h₁, ht₁⟩ := ih₁ [] rfl (.nil _) hs ht
    rw [store_recorded] at ih₂
    obtain ⟨t₂, h₂', ht₂⟩ := ih₂ o.content hroots.symm held hs₁ (shifted_recorded ht₁)
    obtain ⟨hc₂, hs₂, hr₂⟩ := h₂.change o.content hroots.symm (by rwa [store_recorded]) (by rwa [store_recorded])
    rw [store_recorded] at hc₂
    obtain ⟨t₃, hm, ht₃⟩ := merge_shift ht₂ hs₂ (fun x hx => (hr₁ layout rfl x hx).2.1.trans_le hc₂.size_le)
      (fun x hx => (hr₂ template rfl x hx).2.1) hm
    rw [Call.shift, ← ht₁.store.content] at h₂'
    rw [← ht.store.head] at hsrc
    rw [← ht.chain] at hp
    exact ⟨t₃, .merge hsrc hp h₁ h₂' hm, ht₃⟩
  | unread hr =>
    intro os _ _ _ t ht
    exact ⟨_, .unread hr, ht.note _⟩
  | unparsed hr hp =>
    intro os _ _ _ t ht
    obtain ⟨t₁, hp, ht₁⟩ := parse_shift (ht.note _) hp
    exact ⟨t₁, .unparsed hr hp, ht₁⟩
  | load hr hp _ ih =>
    intro os _ _ hs t ht
    obtain ⟨_, os, -, -, hid, hst, hs₁⟩ := parse_stored hp
    obtain ⟨t₁, hp, ht₁⟩ := parse_shift (ht.note _) hp
    obtain ⟨t₂, h₂, ht₂⟩ := ih os hid hst.holds (hs₁ hs) (ht₁.enter _)
    exact ⟨_, .load hr hp h₂, ht₂.leave _⟩
  | loadStop hr hp _ ih =>
    intro os _ _ hs t ht
    obtain ⟨_, os, -, -, hid, hst, hs₁⟩ := parse_stored hp
    obtain ⟨t₁, hp, ht₁⟩ := parse_shift (ht.note _) hp
    obtain ⟨t₂, h₂, ht₂⟩ := ih os hid hst.holds (hs₁ hs) (ht₁.enter _)
    exact ⟨_, .loadStop hr hp h₂, ht₂.pop⟩

end Resolver

end LayoutInheritance
