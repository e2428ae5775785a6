import LayoutInheritance.Proofs.Block.Fill
import LayoutInheritance.Proofs.Inheritance.Evaluation

/-! What a resolution does to the store. A call that begins with held outlines changes contents of their
nodes alone, and everything that it links lies in them or in nodes that it made itself. So the store stays
sound, what stands elsewhere is left alone, and nothing that extends a layout can be reached from the
result. -/

namespace LayoutInheritance

open Outline (ids)
open Relation (ReflTransGen)

namespace Store

variable {s s₁ s₂ : Store} {N M : List NodeId}

/-- Contents change in the nodes `N` alone, and those of `N` and of the new nodes stay among them. -/
structure Change (N : List NodeId) (s s' : Store) : Prop where
  size_le : s.size ≤ s'.size
  head : ∀ x < s.size, s'.head x = s.head x
  frame : ∀ x < s.size, x ∉ N → s'.content? x = s.content? x
  region : ∀ x, x ∈ N ∨ s.size ≤ x → ∀ y ∈ s'.content x, y ∈ N ∨ s.size ≤ y

theorem Change.refl {os : List Outline} (ho : s.Holds os) : s.Change (ids os) s where
  size_le := le_rfl
  head _ _ := rfl
  frame _ _ _ := rfl
  region x hx y hy := by
    rcases hx with hx | hx
    · exact .inl (ho.closed hx hy)
    · rw [Store.content, content?_of_size_le hx] at hy
      exact absurd hy List.not_mem_nil

theorem Change.trans (h₁ : s.Change N s₁) (h₂ : s₁.Change M s₂) (hM : ∀ x ∈ M, x ∈ N ∨ s.size ≤ x) :
    s.Change N s₂ where
  size_le := h₁.size_le.trans h₂.size_le
  head x hx := by rw [h₂.head x (hx.trans_le h₁.size_le), h₁.head x hx]
  frame x hx hN := by
    have hxM : x ∉ M := fun hm => (hM x hm).elim hN (not_le.2 hx)
    rw [h₂.frame x (hx.trans_le h₁.size_le) hxM, h₁.frame x hx hN]
  region x hx y hy := by
    by_cases hxM : x ∈ M ∨ s₁.size ≤ x
    · rcases h₂.region x hxM y hy with h | h
      · exact hM y h
      · exact .inr (h₁.size_le.trans h)
    · obtain ⟨hm, hs⟩ := not_or.1 hxM
      rw [content_eq_of_content? (h₂.frame x (not_le.1 hs) hm)] at hy
      exact h₁.region x hx y hy

theorem Change.setContent (h : s.Change N s₁) {id : NodeId} {content : List NodeId} (hid : id ∈ N)
    (hc : ∀ y ∈ content, y ∈ N ∨ s.size ≤ y) : s.Change N (s₁.setContent id content) where
  size_le := h.size_le.trans_eq (size_setContent ..).symm
  head x hx := by rw [head_setContent, h.head x hx]
  frame x hx hN := by
    have hne : x ≠ id := fun he => hN (he ▸ hid)
    rw [content?_setContent_ne hne, h.frame x hx hN]
  region x hx y hy := by
    rw [Store.content, content?_setContent] at hy
    split at hy
    · exact hc y hy
    · exact h.region x hx y hy

/-- What was held outside of the changed nodes is held still. -/
theorem Change.holds (h : s.Change N s₁) {os : List Outline} (ho : s.Holds os) (hd : ∀ x ∈ ids os, x ∉ N) :
    s₁.Holds os :=
  ho.frame h.size_le (fun x hx => h.head x (ho.lt_size hx))
    (fun x hx => h.frame x (ho.lt_size hx) (hd x hx))

/-- What was held anywhere is held when nothing old has changed. -/
theorem Change.holds_all (h : s.Change [] s₁) {os : List Outline} (ho : s.Holds os) : s₁.Holds os :=
  h.holds ho fun _ _ => List.not_mem_nil

/-- What follows a changed outline is held still. -/
theorem Change.holds_rest {o : Outline} {os : List Outline} (h : s.Change (ids [o]) s₁)
    (ho : s.Holds (o :: os)) :
    s₁.Holds os :=
  h.holds ho.rest fun x hx hm => ho.apart x hm hx

/-- A change in some nodes of held outlines is a change in their nodes. -/
theorem Change.of_subset {os : List Outline} (h : s.Change M s₁) (ho : s.Holds os) (hM : M ⊆ ids os) :
    s.Change (ids os) s₁ :=
  (Change.refl ho).trans h fun _ hx => .inl (hM hx)

theorem Change.free (h : s.Change N s₁) {p : Head Markup → Bool} {P : NodeId → Prop} {x : NodeId}
    (hc : ∀ x, P x → ∀ y ∈ s.content x, P y) (hP : ∀ x, P x → x < s.size ∧ x ∉ N) (hx : P x)
    (hf : s.Free p x) : s₁.Free p x :=
  hf.frame hc (fun x hx => h.head x (hP x hx).1) (fun x hx => h.frame x (hP x hx).1 (hP x hx).2) hx

/-- The nodes `N` and those made since `s` are closed. -/
theorem Change.closed (h : s.Change N s₁) (hs : s₁.Sound) :
    ∀ x, (x ∈ N ∨ s.size ≤ x) ∧ x < s₁.size → ∀ y ∈ s₁.content x, (y ∈ N ∨ s.size ≤ y) ∧ y < s₁.size :=
  fun x hx y hy => ⟨h.region x hx.1 y hy, hs.closed x y hy⟩

theorem Stored.change {os : List Outline} (h : s.Stored os s₁) : s.Change [] s₁ where
  size_le := h.size_le
  head := h.head
  frame x hx _ := h.content? x hx
  region x hx y hy := by
    refine .inr ?_
    have hs : x < s₁.size := by
      by_contra hn
      rw [Store.content, content?_of_size_le (not_lt.1 hn)] at hy
      exact absurd hy List.not_mem_nil
    have hm := h.region x (hx.resolve_left List.not_mem_nil) hs
    exact h.fresh y (h.holds.closed hm hy)

/-! ### Merging -/

variable {layout template : List NodeId}

/-- A merge keeps a store sound when the template lies in a closed part apart from the layout. -/
theorem Grafts.sound (h : s.Grafts layout template s₁) (hs : s.Sound) {P : NodeId → Prop}
    (hc : ∀ x, P x → ∀ y ∈ s.content x, P y) (ht : ∀ id ∈ template, P id)
    (hd : ∀ x, P x → ¬ s.Within layout x) : s₁.Sound where
  closed x y hy := by
    rw [h.size]
    rcases h.content x y hy with hy | ⟨source, -, hy⟩
    · exact hs.closed x y hy
    · exact hs.closed source y hy
  tagged x hx := by
    rw [h.head]
    by_cases he : s₁.content? x = s.content? x
    · rw [content_eq_of_content? he] at hx
      exact hs.tagged x hx
    · exact h.isTag x he
  acyclic := by
    apply acyclic_of_grafts hs.acyclic (P := P)
    · intro x hx y hy
      rw [content_eq_of_content? (h.frame x (hd x hx))] at hy
      exact ⟨hc x hx y hy, hy⟩
    · intro x y hy
      rcases h.content x y hy with hy | ⟨source, hw, hy⟩
      · exact .inl hy
      · exact .inr (hc source (hw.of_closed hc ht) y hy)

/-- What is free stays free when the template is free. -/
theorem Grafts.free (h : s.Grafts layout template s₁) {p : Head Markup → Bool}
    (ht : ∀ id ∈ template, s.Free p id) {x : NodeId} (hx : s.Free p x) : s₁.Free p x := by
  apply Free.of_closed (P := s.Free p)
  · intro x hx y hy
    rcases h.content x y hy with hy | ⟨source, hw, hy⟩
    · exact hx.inside hy
    · exact (Free.within ht hw).inside hy
  · intro x hx
    rw [h.head]
    exact hx.self
  · exact hx

theorem Change.grafts (h : s.Change N s₁) (hg : s₁.Grafts layout template s₂)
    (hl : ∀ x, s₁.Within layout x → s.size ≤ x)
    (ht : ∀ x, s₁.Within template x → x ∈ N ∨ s.size ≤ x) : s.Change N s₂ where
  size_le := h.size_le.trans_eq hg.size.symm
  head x hx := by rw [hg.head, h.head x hx]
  frame x hx hN := by
    rw [hg.frame x (fun hw => not_lt.2 (hl x hw) hx), h.frame x hx hN]
  region x hx y hy := by
    rcases hg.content x y hy with hy | ⟨source, hw, hy⟩
    · exact h.region x hx y hy
    · exact h.region source (ht source hw) y hy

end Store

namespace Resolver

open Store (Change)

variable {c : Resolver} {r r' : Run} {out : Except Failure (List NodeId)}

/-- The nodes of a result lie among `N` or are new, and nothing in them extends a layout. -/
def Result (N : List NodeId) (s s' : Store) (out : Except Failure (List NodeId)) : Prop :=
  ∀ found, out = .ok found → ∀ id ∈ found,
    (id ∈ N ∨ s.size ≤ id) ∧ id < s'.size ∧ s'.Free Head.isExtends id

theorem Result.error {N : List NodeId} {s s' : Store} {e : Failure} : Result N s s' (.error e) :=
  fun _ h => nomatch h

/-- The content of an element is resolved: its nodes are set anew. -/
theorem change_inside {s s₁ : Store} {o : Outline} {content : List NodeId} (ho : s.Holds [o])
    (hne : o.content ≠ []) (hs : s.Sound) (he : o.head.isExtends = false) (h : s.Change (ids o.content) s₁)
    (hs₁ : s₁.Sound)
    (hr : Result (ids o.content) s s₁ (.ok content)) :
    s.Change (ids [o]) (s₁.setContent o.id content) ∧ (s₁.setContent o.id content).Sound ∧
      Result (ids [o]) s (s₁.setContent o.id content) (.ok [o.id]) := by
  have hlt := ho.root.lt_size
  have sub : ids o.content ⊆ ids [o] := fun x hx => Outline.mem_ids_singleton.2 (.inr hx)
  have self : o.id ∈ ids [o] := Outline.mem_ids_of_mem (List.mem_singleton_self o)
  have apart : ¬ (o.id ∈ ids o.content ∨ s.size ≤ o.id) :=
    not_or.2 ⟨ho.root_not_mem, not_le.2 hlt⟩
  have hN : s.Change (ids [o]) s₁ := h.of_subset ho sub
  have found : ∀ y ∈ content, (y ∈ ids o.content ∨ s.size ≤ y) ∧ y < s₁.size ∧ s₁.Free Head.isExtends y :=
    hr content rfl
  have tag : (s.head o.id).isTag := by
    apply hs.tagged
    rw [ho.root.content]
    simpa using hne
  refine ⟨?_, ?_, ?_⟩
  · exact hN.setContent self fun y hy => (found y hy).1.imp_left (@sub y)
  · refine hs₁.setContent (P := fun x => x ∈ ids o.content ∨ s.size ≤ x) h.region apart
      (fun y hy => (found y hy).1) (fun y hy => (found y hy).2.1) ?_
    rw [h.head _ hlt]
    exact tag
  · intro found' he' id hid
    cases he'
    rw [List.mem_singleton] at hid
    subst hid
    refine ⟨.inl self, ?_, ?_⟩
    · rw [Store.size_setContent]
      exact hlt.trans_le h.size_le
    · apply Store.Free.of_closed (P := fun x => x = o.id ∨
        (x ∈ ids o.content ∨ s.size ≤ x) ∧ s₁.Free Head.isExtends x)
      · rintro x (rfl | ⟨hx, hf⟩) y hy
        · rw [Store.content_setContent_self (hlt.trans_le h.size_le)] at hy
          exact .inr ⟨(found y hy).1, (found y hy).2.2⟩
        · have hne : x ≠ o.id := fun he => apart (he ▸ hx)
          rw [Store.content_setContent_ne hne] at hy
          exact .inr ⟨h.region x hx y hy, hf.inside hy⟩
      · rintro x (rfl | ⟨-, hf⟩)
        · rw [Store.head_setContent, h.head _ hlt, ho.root.head]
          exact he
        · rw [Store.head_setContent]
          exact hf.self
      · exact .inl rfl

/-- A layout is merged with the content of the element that extends it: the layout's nodes are new, and
the template's are those of the content, or newer than the layout. -/
theorem change_merge {s s₁ s₂ : Store} {o : Outline} {layout template : List NodeId} (ho : s.Holds [o])
    (h₁ : s.Change [] s₁) (hs₁ : s₁.Sound) (hl : Result [] s s₁ (.ok layout))
    (h₂ : s₁.Change (ids o.content) s₂) (hs₂ : s₂.Sound) (ht : Result (ids o.content) s₁ s₂ (.ok template)) :
    s.Change (ids [o]) (s₂.merge layout template).store ∧ (s₂.merge layout template).store.Sound ∧
      Result (ids [o]) s (s₂.merge layout template).store (.ok layout) := by
  have lt : ∀ x ∈ ids o.content, x < s.size := fun x hx => ho.content.lt_size hx
  have sub : ids o.content ⊆ ids [o] := fun x hx => Outline.mem_ids_singleton.2 (.inr hx)
  have hN : s.Change (ids [o]) s₂ := (h₁.of_subset ho (List.nil_subset _)).trans h₂ fun x hx => .inl (sub hx)
  -- the nodes that the layout consists of, and those of the template
  have closed₁ := h₁.closed hs₁
  have old : ∀ x, (x ∈ [] ∨ s.size ≤ x) ∧ x < s₁.size → x < s₁.size ∧ x ∉ ids o.content := fun x hx =>
    ⟨hx.2, fun hm => not_le.2 (lt x hm) (hx.1.resolve_left List.not_mem_nil)⟩
  have closedLayout : ∀ x, (x ∈ [] ∨ s.size ≤ x) ∧ x < s₁.size →
      ∀ y ∈ s₂.content x, (y ∈ [] ∨ s.size ≤ y) ∧ y < s₁.size := by
    intro x hx y hy
    rw [Store.content_eq_of_content? (h₂.frame x (old x hx).1 (old x hx).2)] at hy
    exact closed₁ x hx y hy
  have inLayout : ∀ x, s₂.Within layout x → (x ∈ [] ∨ s.size ≤ x) ∧ x < s₁.size := fun x hx =>
    hx.of_closed closedLayout fun id hid => ⟨(hl layout rfl id hid).1, (hl layout rfl id hid).2.1⟩
  have inTemplate : ∀ x, s₂.Within template x → x ∈ ids o.content ∨ s₁.size ≤ x := fun x hx =>
    hx.of_closed h₂.region fun id hid => (ht template rfl id hid).1
  have apart : ∀ x, x ∈ ids o.content ∨ s₁.size ≤ x → ¬ s₂.Within layout x := by
    intro x hx hw
    have hx' := inLayout x hw
    rcases hx with hx | hx
    · exact (old x hx').2 hx
    · exact not_lt.2 hx hx'.2
  have hg := Store.merge_grafts fun x hw ht => apart x (inTemplate x ht) hw
  refine ⟨?_, ?_, ?_⟩
  · exact hN.grafts hg (fun x hw => (inLayout x hw).1.resolve_left List.not_mem_nil)
      fun x hw => (inTemplate x hw).imp (@sub x) h₁.size_le.trans
  · exact hg.sound hs₂ h₂.region (fun id hid => (ht template rfl id hid).1) apart
  · intro found he id hid
    cases he
    have hid' := hl layout rfl id hid
    refine ⟨.inr (hid'.1.resolve_left List.not_mem_nil), ?_, ?_⟩
    · rw [hg.size]
      exact hid'.2.1.trans_le h₂.size_le
    · apply hg.free fun id hid => (ht template rfl id hid).2.2
      exact h₂.free closed₁ old ⟨hid'.1, hid'.2.1⟩ hid'.2.2

/-- A call that begins with held outlines changes their nodes alone, and its result is free of elements
that extend. -/
theorem Resolves.change {call : Call} (h : c.Resolves call r out r') :
    ∀ os : List Outline, os.map Outline.id = call.roots → r.store.Holds os → r.store.Sound →
      r.store.Change (ids os) r'.store ∧ r'.store.Sound ∧ Result (ids os) r.store r'.store out := by
  induction h with
  | nil =>
    intro os _ ho hs
    refine ⟨.refl ho, hs, fun found he id hid => ?_⟩
    cases he
    exact nomatch hid
  | stop _ ih =>
    intro os he ho hs
    obtain ⟨o, os, rfl, hid, -⟩ := List.map_eq_cons_iff.1 he
    obtain ⟨hc, hs₁, -⟩ := ih [o] (by rw [List.map_singleton, hid]; rfl) ho.first hs
    exact ⟨hc.of_subset ho fun x hx => Outline.mem_ids_cons.2 (.inl hx), hs₁, .error⟩
  | @cons _ _ _ r here r₁ out r₂ _ _ ih₁ ih₂ =>
    intro os he ho hs
    obtain ⟨o, os, rfl, hid, he'⟩ := List.map_eq_cons_iff.1 he
    obtain ⟨hc₁, hs₁, hr₁⟩ := ih₁ [o] (by rw [List.map_singleton, hid]; rfl) ho.first hs
    obtain ⟨hc₂, hs₂, hr₂⟩ := ih₂ os he' (hc₁.holds_rest ho) hs₁
    have here_subset : ids [o] ⊆ ids (o :: os) := fun x hx => Outline.mem_ids_cons.2 (.inl hx)
    have rest_subset : ids os ⊆ ids (o :: os) := fun x hx => Outline.mem_ids_cons.2 (.inr hx)
    refine ⟨(hc₁.of_subset ho here_subset).trans hc₂ fun x hx => .inl (rest_subset hx), hs₂, ?_⟩
    · intro found hf id hid'
      cases out with
      | error e => exact nomatch hf
      | ok after =>
        cases hf
        rcases List.mem_append.1 hid' with hm | hm
        · have h₁ := hr₁ here rfl id hm
          refine ⟨h₁.1.imp_left (@here_subset id), h₁.2.1.trans_le hc₂.size_le, ?_⟩
          refine hc₂.free (hc₁.closed hs₁) (fun x hx => ⟨hx.2, fun hm' => ?_⟩) ⟨h₁.1, h₁.2.1⟩ h₁.2.2
          rcases hx.1 with hx | hx
          · exact ho.apart x hx hm'
          · exact not_le.2 (ho.rest.lt_size hm') hx
        · have h₂ := hr₂ after rfl id hm
          exact ⟨h₂.1.imp (@rest_subset id) hc₁.size_le.trans, h₂.2⟩
  | keep he hc =>
    intro os hi ho hs
    obtain ⟨o, rfl, rfl⟩ := List.map_eq_singleton_iff.1 hi
    refine ⟨.refl ho, hs, fun found hf id hid => ?_⟩
    cases hf
    rw [List.mem_singleton] at hid
    subst hid
    refine ⟨.inl (Outline.mem_ids_of_mem (List.mem_singleton_self o)), ho.root.lt_size, ?_⟩
    apply Store.Free.of_closed (P := fun x => x = o.id)
    · rintro x rfl y hy
      rw [hc] at hy
      exact nomatch hy
    · rintro x rfl
      exact he
    · rfl
  | inside he hc _ ih =>
    intro os hi ho hs
    obtain ⟨o, rfl, rfl⟩ := List.map_eq_singleton_iff.1 hi
    have hcontent := ho.root.content
    obtain ⟨hc₁, hs₁, hr₁⟩ := ih o.content hcontent.symm ho.content hs
    refine change_inside ho ?_ hs (ho.root.head ▸ he) hc₁ hs₁ hr₁
    intro hn
    exact hc (by rw [hcontent, hn]; rfl)
  | insideStop he hc _ ih =>
    intro os hi ho hs
    obtain ⟨o, rfl, rfl⟩ := List.map_eq_singleton_iff.1 hi
    obtain ⟨hc₁, hs₁, -⟩ := ih o.content ho.root.content.symm ho.content hs
    exact ⟨hc₁.of_subset ho fun x hx => Outline.mem_ids_singleton.2 (.inr hx), hs₁, .error⟩
  | noSource | circular =>
    intro os _ ho hs
    exact ⟨.refl ho, hs, .error⟩
  | layoutStop _ _ _ ih =>
    intro os _ ho hs
    obtain ⟨hc₁, hs₁, -⟩ := ih [] rfl (.nil _) hs
    exact ⟨hc₁.of_subset ho (List.nil_subset _), hs₁, .error⟩
  | templateStop _ _ _ _ ih₁ ih₂ =>
    intro os hi ho hs
    obtain ⟨o, rfl, rfl⟩ := List.map_eq_singleton_iff.1 hi
    obtain ⟨hc₁, hs₁, -⟩ := ih₁ [] rfl (.nil _) hs
    have held := hc₁.holds_all ho
    rw [store_recorded] at ih₂
    obtain ⟨hc₂, hs₂, -⟩ := ih₂ o.content held.root.content.symm held.content hs₁
    refine ⟨(hc₁.of_subset ho (List.nil_subset _)).trans hc₂ fun x hx => ?_, hs₂, .error⟩
    exact .inl (Outline.mem_ids_singleton.2 (.inr hx))
  | @merge _ _ _ _ layout _ _ _ out _ _ _ _ _ hm ih₁ ih₂ =>
    intro os hi ho hs
    obtain ⟨o, rfl, rfl⟩ := List.map_eq_singleton_iff.1 hi
    obtain ⟨hc₁, hs₁, hr₁⟩ := ih₁ [] rfl (.nil _) hs
    have held := hc₁.holds_all ho
    rw [store_recorded] at ih₂
    obtain ⟨hc₂, hs₂, hr₂⟩ := ih₂ o.content held.root.content.symm held.content hs₁
    rw [(merge_run hm).2.2]
    obtain ⟨hc, hs₃, hr⟩ := change_merge ho hc₁ hs₁ hr₁ hc₂ hs₂ hr₂
    refine ⟨hc, hs₃, fun found hf => ?_⟩
    subst hf
    rw [merge_out hm]
    exact hr layout rfl
  | unread =>
    intro os _ ho hs
    exact ⟨.refl ho, hs, .error⟩
  | unparsed _ hp =>
    intro os _ ho hs
    rw [Step.run_parse] at hp
    split at hp <;> cases hp
    exact ⟨.refl ho, hs, .error⟩
  | load _ hp _ ih =>
    intro os hi ho hs
    obtain rfl := List.map_eq_nil_iff.1 hi
    obtain ⟨_, os, -, -, hid, hst, hs₁⟩ := parse_stored hp
    obtain ⟨hc₂, hs₂, hr₂⟩ := ih os hid hst.holds (hs₁ hs)
    refine ⟨hst.change.trans hc₂ fun x hx => .inr (hst.fresh x hx), hs₂, fun found hf id hm => ?_⟩
    obtain ⟨h₁, h₂⟩ := hr₂ found hf id hm
    exact ⟨.inr (h₁.elim (hst.fresh id) hst.size_le.trans), h₂⟩
  | loadStop _ hp _ ih =>
    intro os hi ho hs
    obtain rfl := List.map_eq_nil_iff.1 hi
    obtain ⟨_, os, -, -, hid, hst, hs₁⟩ := parse_stored hp
    obtain ⟨hc₂, hs₂, -⟩ := ih os hid hst.holds (hs₁ hs)
    exact ⟨hst.change.trans hc₂ fun x hx => .inr (hst.fresh x hx), hs₂, .error⟩

end Resolver

end LayoutInheritance
