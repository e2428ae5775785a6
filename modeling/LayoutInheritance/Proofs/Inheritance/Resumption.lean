import LayoutInheritance.Proofs.Inheritance.Flat
import LayoutInheritance.Proofs.Inheritance.Ready

/-! Resolution that is taken up again. A tree is resolved to what it means, in every state in which it is ready to be
resolved, and a resolution leaves it ready, wherever it stops. This is shown for one node, whose content is
resolved likewise, and from that, by induction on the depth, for a whole tree. -/

namespace LayoutInheritance

open Outline (ids heightAll)

namespace Resolver

open Store (Alters Settles)

variable {c : Resolver} {r r₁ r₂ : Run} {document : Option String} {chain : List String} {P : NodeId → Prop}
  {o : Outline} {os found : List Outline} {out : Except Failure (List NodeId)}
  {inherit : Option String → String → Step (List NodeId)} {resolve : List NodeId → Step (List NodeId)}

/-- The nodes of `os` may be resolved. None of them is in `P`, where the contents lie that have been replaced before. -/
structure Resumable (c : Resolver) (document : Option String) (chain : List String) (P : NodeId → Prop)
    (os : List Outline) (r : Run) : Prop where
  sound : r.store.Sound
  chain_eq : r.chain = chain
  nodup : (ids os).Nodup
  old : ∀ x ∈ ids os, x < r.store.size ∧ ¬ P x
  ready : r.store.ReadyAll (c.meaningAll document chain) P os

/-- A resolution of `os` comes to what the outlines mean, and whether it does or fails, they may be resolved again. -/
structure Resumed (c : Resolver) (document : Option String) (chain : List String) (P : NodeId → Prop)
    (os : List Outline) (r : Run) (out : Except Failure (List NodeId)) (r' : Run) : Prop where
  sound : r'.store.Sound
  chain_eq : r'.chain = chain
  alters : r.store.Alters (ids os) r'.store
  ready : r'.store.ReadyAll (c.meaningAll document chain) (fun x => P x ∨ r.store.size ≤ x) os
  outcome : (∃ e, c.meaningAll document chain (Outline.markupAll os) = .error e ∧ out = .error e) ∨
    ∃ found, c.meaningAll document chain (Outline.markupAll os) = .ok (Outline.markupAll found) ∧
      out = .ok (found.map Outline.id) ∧ r'.store.Settles (fun x => x ∈ ids os ∨ P x ∨ r.store.size ≤ x) found

/-- A step resolves `os` wherever they may be resolved. -/
def Resumes (c : Resolver) (document : Option String) (chain : List String) (os : List Outline)
    (step : Step (List NodeId)) : Prop :=
  ∀ P r, c.Resumable document chain P os r → c.Resumed document chain P os r (step.run r).1 (step.run r).2

theorem Resumes.of_run {step : Step (List NodeId)} (h : c.Resumes document chain os step)
    (ho : c.Resumable document chain P os r) (hr : step.run r = (out, r₁)) :
    c.Resumed document chain P os r out r₁ := by
  have hstep := h P r ho
  rwa [hr] at hstep

theorem Resumed.error {e : Failure} (h : c.Resumed document chain P os r (.error e) r₁) :
    c.meaningAll document chain (Outline.markupAll os) = .error e := by
  rcases h.outcome with ⟨e', hm, he⟩ | ⟨found, -, hf, -⟩
  · cases he
    exact hm
  · exact nomatch hf

theorem Resumed.ok {ids' : List NodeId} (h : c.Resumed document chain P os r (.ok ids') r₁) :
    ∃ found, c.meaningAll document chain (Outline.markupAll os) = .ok (Outline.markupAll found) ∧
      ids' = found.map Outline.id ∧ r₁.store.Settles (fun x => x ∈ ids os ∨ P x ∨ r.store.size ≤ x) found := by
  rcases h.outcome with ⟨e', -, he⟩ | ⟨found, hm, hf, hs⟩
  · exact nomatch he
  · cases hf
    exact ⟨found, hm, rfl, hs⟩

namespace Resumable

theorem first (h : c.Resumable document chain P (o :: os) r) : c.Resumable document chain P [o] r where
  sound := h.sound
  chain_eq := h.chain_eq
  nodup := (List.nodup_append'.1 (Outline.ids_append [o] os ▸ h.nodup)).1
  old x hx := h.old x (Outline.mem_ids_cons.2 (.inl hx))
  ready := ⟨h.ready.1, trivial⟩

theorem apart (h : c.Resumable document chain P (o :: os) r) : ∀ x ∈ ids [o], x ∉ ids os :=
  (List.nodup_append'.1 (Outline.ids_append [o] os ▸ h.nodup)).2.2

theorem root_not_mem (h : c.Resumable document chain P [o] r) : o.id ∉ ids o.content := by
  have hn := h.nodup
  rw [Outline.ids_singleton, List.nodup_cons] at hn
  exact hn.1

theorem content (h : c.Resumable document chain P [o] r)
    (hc : r.store.ReadyAll (c.meaningAll document chain) P o.content) :
    c.Resumable document chain P o.content r where
  sound := h.sound
  chain_eq := h.chain_eq
  nodup := by
    have hn := h.nodup
    rw [Outline.ids_singleton, List.nodup_cons] at hn
    exact hn.2
  old x hx := h.old x (Outline.mem_ids_singleton.2 (.inr hx))
  ready := hc

/-! ### Nodes that keep their place -/

/-- There is nothing to do. -/
theorem done (h : c.Resumable document chain P [o] r) (o' : Outline) (hid : o'.id = o.id)
    (hm : c.meaningAll document chain (Outline.markupAll [o]) = .ok (Outline.markupAll [o']))
    (hs : r.store.Settles (fun x => x ∈ ids [o] ∨ P x) [o']) : c.Resumed document chain P [o] r (.ok [o.id]) r where
  sound := h.sound
  chain_eq := h.chain_eq
  alters := .refl _ _
  ready := h.ready.imp (fun _ _ h => h) fun _ _ => .inl
  outcome := .inr ⟨[o'], hm, by rw [← hid]; rfl, hs.imp fun _ _ => Or.imp_right .inl⟩

/-- There is nothing inside. -/
theorem keep (h : c.Resumable document chain P [o] r) (hx : o.head.isExtends = false) (ho : r.store.Shows o)
    (hc : o.content = []) : c.Resumed document chain P [o] r (.ok [o.id]) r := by
  refine h.done _ rfl ?_ ⟨.node ho (hc ▸ .nil _), fun x hx' => ?_, fun x hx' => .inl hx'⟩
  · cases o with
    | leaf id hd =>
      rw [Outline.markupAll_singleton, meaningAll_singleton]
      exact if_neg (Bool.eq_false_iff.1 hx)
    | branch id hd content =>
      obtain rfl : content = [] := hc
      rw [meaning_kept (h := hd) hx]
      rfl
  · rw [Outline.ids_singleton, hc, Outline.ids_nil, List.mem_singleton] at hx'
    rw [hx', ho.head]
    exact hx

/-- The content has been replaced before. -/
theorem settled {id : NodeId} {hd : Head Markup} {content : List Outline}
    (h : c.Resumable document chain P [.branch id hd content] r) (hx : hd.isExtends = false)
    (ho : r.store.Shows (.branch id hd found)) (hf : r.store.Settles (fun x => x ∈ ids content ∨ P x) found)
    (hm : c.meaningAll document chain (Outline.markupAll content) = .ok (Outline.markupAll found)) :
    c.Resumed document chain P [.branch id hd content] r (.ok [id]) r := by
  refine h.done (.branch id hd found) rfl ?_ ?_
  · rw [meaning_kept hx, hm]
    rfl
  · refine Settles.node (hf.imp fun x _ => Or.imp_left fun hx => ?_) ho hx (.inl ?_)
    · exact Outline.mem_ids_singleton.2 (.inr hx)
    · exact Outline.mem_ids_singleton.2 (.inl rfl)

/-- Wherever it stops, a node that is as before may be resolved again when its content may. -/
theorem again {s : Store} (ho : r.store.Shows o) {N : List NodeId} (ha : r.store.Alters N s) (hN : o.id ∉ N)
    {Q : NodeId → Prop}
    (hc : s.ReadyAll (c.meaningAll document chain) Q o.content) : s.ReadyAll (c.meaningAll document chain) Q [o] :=
  Store.readyAll_singleton.2 (.intact (ho.alters ha hN) hc)

theorem insideStop {id : NodeId} {hd : Head Markup} {before : List Outline} {e : Failure}
    (h : c.Resumable document chain P [.branch id hd before] r) (hx : hd.isExtends = false)
    (ho : r.store.Shows (.branch id hd before)) (hr : c.Resumed document chain P before r (.error e) r₁) :
    c.Resumed document chain P [.branch id hd before] r (.error e) r₁ where
  sound := hr.sound
  chain_eq := hr.chain_eq
  alters := hr.alters.mono fun _ hx => Outline.mem_ids_singleton.2 (.inr hx)
  ready := again ho hr.alters h.root_not_mem hr.ready
  outcome := .inl ⟨e, by rw [meaning_kept hx, hr.error]; rfl, rfl⟩

/-- The content is replaced. -/
theorem inside {id : NodeId} {hd : Head Markup} {before : List Outline} {content : List NodeId}
    (h : c.Resumable document chain P [.branch id hd before] r) (hx : hd.isExtends = false)
    (ho : r.store.Shows (.branch id hd before)) (hne : r.store.content id ≠ [])
    (hr : c.Resumed document chain P before r (.ok content) r₁) :
    c.Resumed document chain P [.branch id hd before] r (.ok [id])
      { r₁ with store := r₁.store.setContent id content } := by
  obtain ⟨found, hm, rfl, hs⟩ := hr.ok
  have hself : id ∈ ids [.branch id hd before] := Outline.mem_ids_singleton.2 (.inl rfl)
  have hsub : ids before ⊆ ids [.branch id hd before] := fun _ hx => Outline.mem_ids_singleton.2 (.inr hx)
  have hlt : id < r.store.size := ho.lt_size
  have hlt₁ : id < r₁.store.size := hlt.trans_le hr.alters.size_le
  have hid : id ∉ ids found := by
    intro hx'
    rcases hs.region id hx' with hx' | hx' | hx'
    · exact h.root_not_mem hx'
    · exact (h.old id hself).2 hx'
    · exact not_lt.2 hx' hlt
  have hshows : (r₁.store.setContent id (found.map Outline.id)).Shows (.branch id hd found) := by
    refine ⟨?_, ?_, Store.content?_setContent_self hlt₁ _⟩
    · rw [Store.size_setContent]
      exact hlt₁
    · rw [Store.head_setContent]
      exact (hr.alters.head id hlt).trans ho.head
  have hsettles : (r₁.store.setContent id (found.map Outline.id)).Settles
      (fun x => x ∈ ids before ∨ P x ∨ r.store.size ≤ x) found := by
    have hown : r₁.store.Settles (· ∈ ids found) found := ⟨hs.depicts, hs.plain, fun _ hx => hx⟩
    have hown' := hown.alters (.setContent r₁.store id (found.map Outline.id)) fun x hx hm =>
      hid (List.mem_singleton.1 hm ▸ hx)
    exact ⟨hown'.depicts, hown'.plain, hs.region⟩
  constructor
  · refine hr.sound.setContent (P := (· ∈ ids found)) (fun x hx y hy => hs.depicts.closed hx hy) hid ?_ ?_ ?_
    · intro y hy
      obtain ⟨q, hq, rfl⟩ := List.mem_map.1 hy
      exact Outline.mem_ids_of_mem hq
    · intro y hy
      obtain ⟨q, hq, rfl⟩ := List.mem_map.1 hy
      exact hs.depicts.lt_size (Outline.mem_ids_of_mem hq)
    · rw [hr.alters.head id hlt]
      exact h.sound.tagged id hne
  · exact hr.chain_eq
  · refine Alters.trans (hr.alters.mono hsub) (.setContent ..) ?_
    rintro x - hx'
    rw [List.mem_singleton.1 hx']
    exact hself
  · exact Store.readyAll_singleton.2 (.inr ⟨hx, found, hshows, hsettles, hm⟩)
  · refine .inr ⟨[.branch id hd found], ?_, rfl, ?_⟩
    · rw [meaning_kept hx, hm]
      rfl
    · exact Settles.node (hsettles.imp fun x _ => Or.imp_left (@hsub x)) hshows hx (.inl hself)

/-! ### Elements that give way to layouts -/

theorem stop (h : c.Resumable document chain P [o] r) {e : Failure}
    (hm : c.meaningAll document chain (Outline.markupAll [o]) = .error e) :
    c.Resumed document chain P [o] r (.error e) r where
  sound := h.sound
  chain_eq := h.chain_eq
  alters := .refl _ _
  ready := h.ready.imp (fun _ _ h => h) fun _ _ => .inl
  outcome := .inl ⟨e, hm, rfl⟩

/-- When a layout has been loaded, the content of the element may still be resolved. -/
theorem later (h : c.Resumable document chain P [o] r)
    (hc : r.store.ReadyAll (c.meaningAll document chain) P o.content) (ha : r.store.Alters [] r₁.store)
    (hs : r₁.store.Sound) (hchain : r₁.chain = chain) :
    c.Resumable document chain (fun x => P x ∧ x < r.store.size) o.content r₁ where
  sound := hs
  chain_eq := hchain
  nodup := (h.content hc).nodup
  old x hx := by
    have hold := (h.content hc).old x hx
    exact ⟨hold.1.trans_le ha.size_le, fun hP => hold.2 hP.1⟩
  ready := by
    refine Store.ReadyAll.alters ha (fun _ _ => List.not_mem_nil) (fun _ _ => List.not_mem_nil) ?_
    exact hc.imp (fun _ _ h => h) fun x hx hP => ⟨hP, hx⟩

theorem layoutStop (ho : r.store.Shows o) (hc : r.store.ReadyAll (c.meaningAll document chain) P o.content)
    (ha : r.store.Alters [] r₁.store) (hs : r₁.store.Sound) (hchain : r₁.chain = chain) {e : Failure}
    (hm : c.meaningAll document chain (Outline.markupAll [o]) = .error e) :
    c.Resumed document chain P [o] r (.error e) r₁ := by
  refine ⟨hs, hchain, ha.mono (List.nil_subset _), again ho ha List.not_mem_nil ?_, .inl ⟨e, hm, rfl⟩⟩
  refine Store.ReadyAll.alters ha (fun _ _ => List.not_mem_nil) (fun _ _ => List.not_mem_nil) ?_
  exact hc.imp (fun _ _ h => h) fun _ _ => .inl

end Resumable

/-- The merge of what a layout and a template have come to. -/
theorem merge_settled {Q : NodeId → Prop} {ls ts : List Outline} (hs : r.store.Sound) (hl : r.store.Settles P ls)
    (ht : r.store.Settles Q ts) (hd : ∀ x, P x → ¬ Q x)
    (hm : (Step.merge (ls.map Outline.id) (ts.map Outline.id)).run r = (out, r₁)) :
    (r₁.store.Sound ∧ r₁.chain = r.chain ∧ r.store.Alters (ids ls) r₁.store) ∧
    ((∃ e, merged ls (Outline.markupAll ts) = .error e ∧ out = .error e) ∨
      ∃ found, merged ls (Outline.markupAll ts) = .ok (Outline.markupAll found) ∧ out = .ok (found.map Outline.id) ∧
        r₁.store.Settles (fun x => P x ∨ Q x) found) := by
  obtain ⟨hmerged, hresult⟩ := Settles.merged hs hl ht hd
  obtain ⟨hchain, -, hstore⟩ := merge_run hm
  refine ⟨⟨hstore ▸ hmerged.sound, hchain, ?_⟩, ?_⟩
  · rw [hstore]
    exact ⟨hmerged.size.ge, fun x _ => hmerged.head x, fun x _ hx => hmerged.frame x hx⟩
  · have hissue := hmerged.issue?
    rw [Step.run_merge] at hm
    rw [merged]
    cases hcopy : (Markup.merge (Outline.markupAll ls) (Outline.markupAll ts)).2 with
    | error issue =>
      rw [hcopy] at hissue
      rw [hissue] at hm
      exact .inl ⟨_, rfl, (congrArg Prod.fst hm).symm⟩
    | ok _ =>
      rw [hcopy] at hissue
      obtain ⟨found, hid, hmarkup, hfound⟩ := hresult hissue
      rw [hissue] at hm
      refine .inr ⟨found, congrArg Except.ok hmarkup.symm, ?_, hstore ▸ hfound⟩
      rw [hid]
      exact (congrArg Prod.fst hm).symm

/-- The nodes of a layout are new, and it comes to what it comes to on its own. -/
theorem layout_settled {path : String} {layout : List NodeId}
    (h : c.Resolves (.layout document path) r (.ok layout) r₁) (hs : r.store.Sound) (hp : path ∉ r.chain) :
    ∃ alone ls, c.loaded document r.chain path = .ok alone ∧ (∀ template, merged ls template = merged alone template) ∧
      layout = ls.map Outline.id ∧ r₁.store.Settles (fun x => r.store.size ≤ x ∧ x < r₁.store.size) ls := by
  obtain ⟨-, hs₁, hresult⟩ := h.change [] rfl (.nil _) hs
  rcases h.loaded hs hp with ⟨e, -, he⟩ | ⟨alone, hloaded, hout, hdepicts⟩
  · exact nomatch he
  · cases hout
    have hmerged := merged_renameAll (fun _ _ => Nat.add_right_cancel (m := r.store.size)) alone
    refine ⟨alone, _, hloaded, hmerged, rfl, hdepicts, ?_, fun x hx => ?_⟩
    · refine hdepicts.head_of_free hs₁ fun o ho => ?_
      exact (hresult _ rfl o.id (List.mem_map_of_mem ho)).2.2
    · refine ⟨?_, hdepicts.lt_size hx⟩
      rw [Outline.ids_renameAll] at hx
      obtain ⟨y, -, rfl⟩ := List.mem_map.1 hx
      exact Nat.le_add_left ..

section

/- The layout has been loaded from `r` to `r₁`, and the content of the element has been resolved from there on. -/
variable (h : c.Resumable document chain P [o] r) (ho : r.store.Shows o) (ha₁ : r.store.Alters [] r₁.store)
include h ho ha₁

theorem Resumable.templateStop {e : Failure}
    (hr : c.Resumed document chain (fun x => P x ∧ x < r.store.size) o.content r₁ (.error e) r₂)
    (hm : c.meaningAll document chain (Outline.markupAll [o]) = .error e) :
    c.Resumed document chain P [o] r (.error e) r₂ := by
  have ha : r.store.Alters (ids o.content) r₂.store := (ha₁.mono (List.nil_subset _)).trans hr.alters fun _ _ h => h
  refine ⟨hr.sound, hr.chain_eq, ha.mono fun _ hx => Outline.mem_ids_singleton.2 (.inr hx), ?_, .inl ⟨e, hm, rfl⟩⟩
  refine again ho ha h.root_not_mem (hr.ready.imp (fun _ _ h => h) fun x _ hx => ?_)
  exact hx.imp And.left ha₁.size_le.trans

theorem Resumable.merge {template : List NodeId} {ls : List Outline} {r₃ : Run}
    (hls : r₁.store.Settles (fun x => r.store.size ≤ x ∧ x < r₁.store.size) ls)
    (hr : c.Resumed document chain (fun x => P x ∧ x < r.store.size) o.content r₁ (.ok template) r₂)
    (hm : ∀ ms, c.meaningAll document chain (Outline.markupAll o.content) = .ok ms →
      c.meaningAll document chain (Outline.markupAll [o]) = merged ls ms)
    (hmerge : (Step.merge (ls.map Outline.id) template).run r₂ = (out, r₃)) :
    c.Resumed document chain P [o] r out r₃ := by
  obtain ⟨ts, hts, rfl, hsettled⟩ := hr.ok
  have hold : ∀ x ∈ ids o.content, x < r.store.size := fun x hx => (h.old x (Outline.mem_ids_singleton.2 (.inr hx))).1
  -- the nodes of the layout were made between the old ones and those that the content has made
  have hls₂ := hls.alters hr.alters fun x hx hm => not_le.2 (hold x hm) hx.1
  have hapart : ∀ x, r.store.size ≤ x ∧ x < r₁.store.size →
      ¬ (x ∈ ids o.content ∨ (P x ∧ x < r.store.size) ∨ r₁.store.size ≤ x) := by
    rintro x ⟨hlow, hhigh⟩ (hx | hx | hx)
    · exact not_le.2 (hold x hx) hlow
    · exact not_le.2 hx.2 hlow
    · exact not_le.2 hhigh hx
  obtain ⟨⟨hsound, hchain, ha₃⟩, hout⟩ := merge_settled hr.sound hls₂ hsettled hapart hmerge
  have ha : r.store.Alters (ids o.content) r₂.store := (ha₁.mono (List.nil_subset _)).trans hr.alters fun _ _ h => h
  have ha' := ha.trans ha₃ fun x hx hm => absurd hx (not_lt.2 (hls.region x hm).1)
  refine ⟨hsound, hchain.trans hr.chain_eq, ha'.mono fun _ hx => Outline.mem_ids_singleton.2 (.inr hx), ?_, ?_⟩
  · have hready := hr.ready.alters ha₃ (fun x hx hm => hapart x (hls.region x hm) (.inr hx))
      fun x hx hm => hapart x (hls.region x hm) (.inl hx)
    exact again ho ha' h.root_not_mem (hready.imp (fun _ _ h => h) fun x _ hx => hx.imp And.left ha₁.size_le.trans)
  · rw [hm _ hts]
    rcases hout with ⟨e, he, rfl⟩ | ⟨found, hfound, rfl, hs⟩
    · exact .inl ⟨e, he, rfl⟩
    · refine .inr ⟨found, hfound, rfl, hs.imp fun x _ hx => ?_⟩
      rcases hx with hx | hx | hx | hx
      · exact .inr (.inr hx.1)
      · exact .inl (Outline.mem_ids_singleton.2 (.inr hx))
      · exact .inr (.inl hx.1)
      · exact .inr (.inr (ha₁.size_le.trans hx))

end

/-- An element gives way to its layout, merged with what its content comes to. -/
theorem Resumable.expand (h : c.Resumable document chain P [o] r) (ho : r.store.Shows o)
    (hc : r.store.ReadyAll (c.meaningAll document chain) P o.content) (hx : o.head.isExtends)
    (hi : ∀ path ∉ r.chain, c.Follows (.layout document path) (inherit document path) r)
    (ht : c.Resumes document chain o.content (resolve (o.content.map Outline.id))) :
    c.Resumed document chain P [o] r ((c.expand inherit resolve document o.id).run r).1
      ((c.expand inherit resolve document o.id).run r).2 := by
  have hchain := h.chain_eq
  have hmeaning : c.meaningAll document chain (Outline.markupAll [o]) =
      c.expansion document chain o.head (c.meaningAll document chain (Outline.markupAll o.content)) := meaning_extends hx
  rw [run_expand, ho.head]
  rw [expansion] at hmeaning
  cases hsrc : o.head.attribute? "src" with
  | none =>
    rw [hsrc] at hmeaning
    exact h.stop hmeaning
  | some source =>
    rw [hsrc] at hmeaning
    subst hchain
    by_cases hp : c.layoutPath source ∈ r.chain
    · simp only [if_pos hp] at hmeaning ⊢
      exact h.stop hmeaning
    · simp only [if_neg hp] at hmeaning ⊢
      rcases hrun : (inherit document (c.layoutPath source)).run r with ⟨out, r₁⟩
      have hlayout := (hi _ hp).of_run hrun
      obtain ⟨hchange, hs₁, -⟩ := hlayout.change [] rfl (.nil _) h.sound
      have ha₁ := hchange.alters
      cases out with
      | error e =>
        rcases hlayout.loaded h.sound hp with ⟨e', hloaded, he⟩ | ⟨_, -, he, -⟩
        · cases he
          rw [hloaded] at hmeaning
          exact Resumable.layoutStop ho hc ha₁ hs₁ hlayout.chain hmeaning
        · exact nomatch he
      | ok layout =>
        obtain ⟨alone, ls, hloaded, hmerged, rfl, hls⟩ := layout_settled hlayout h.sound hp
        have hcontent := (ho.alters ha₁ List.not_mem_nil).content
        have hlater : c.Resumable document r.chain (fun x => P x ∧ x < r.store.size) o.content
            (c.recorded r₁ (c.layoutPath source) document) := h.later hc
          (by rwa [store_recorded]) (by rwa [store_recorded]) ((chain_recorded ..).trans hlayout.chain)
        rw [hloaded] at hmeaning
        simp only
        rw [hcontent]
        rcases hrun' : (resolve (o.content.map Outline.id)).run (c.recorded r₁ (c.layoutPath source) document) with
          ⟨out, r₂⟩
        have hr₂ := ht.of_run hlater hrun'
        have ha : r.store.Alters [] (c.recorded r₁ (c.layoutPath source) document).store := by rwa [store_recorded]
        cases out with
        | error e => exact h.templateStop ho ha hr₂ (by rw [hmeaning, hr₂.error]; rfl)
        | ok template =>
          refine h.merge ho ha (by rwa [store_recorded]) hr₂ (fun ms hms => ?_) rfl
          rw [hmeaning, hms]
          exact (hmerged ms).symm

/-- A node that is as its outline shows it. -/
theorem Resumable.resolve_intact (h : c.Resumable document chain P [o] r) (ho : r.store.Shows o)
    (hc : r.store.ReadyAll (c.meaningAll document chain) P o.content)
    (hi : ∀ path ∉ r.chain, c.Follows (.layout document path) (inherit document path) r)
    (ht : c.Resumes document chain o.content (resolve (o.content.map Outline.id))) :
    c.Resumed document chain P [o] r ((c.resolveNode inherit resolve document o.id).run r).1
      ((c.resolveNode inherit resolve document o.id).run r).2 := by
  rw [run_resolveNode, ho.head]
  by_cases hx : o.head.isExtends
  · rw [if_pos hx]
    exact h.expand ho hc hx hi ht
  · rw [if_neg hx]
    rw [Bool.not_eq_true] at hx
    by_cases hn : r.store.content o.id = []
    · rw [if_pos hn]
      rw [ho.content, List.map_eq_nil_iff] at hn
      exact h.keep hx ho hn
    · rw [if_neg hn]
      cases o with
      | leaf id hd => exact absurd ho.content hn
      | branch id hd before =>
        rw [ho.content]
        rcases hrun : (resolve ((Outline.branch id hd before).content.map Outline.id)).run r with ⟨e | content, r₁⟩
        · exact h.insideStop hx ho (ht.of_run (h.content hc) hrun)
        · exact h.inside hx ho hn (ht.of_run (h.content hc) hrun)

/-! ### Trees -/

theorem resumes_resolveNode
    (hi : ∀ r : Run, r.chain = chain → r.store.Sound →
      ∀ path ∉ chain, c.Follows (.layout document path) (inherit document path) r)
    (hfree : ∀ (tree : List NodeId) (r : Run), (∀ x ∈ tree, r.store.Free Head.isExtends x) →
      (resolve tree).run r = (.ok tree, r))
    (ht : c.Resumes document chain o.content (resolve (o.content.map Outline.id))) :
    c.Resumes document chain [o] (c.resolveNode inherit resolve document o.id) := by
  intro P r h
  have hlayouts : ∀ path ∉ r.chain, c.Follows (.layout document path) (inherit document path) r := fun path hp =>
    hi r h.chain_eq h.sound path (h.chain_eq ▸ hp)
  have hready := Store.readyAll_singleton.1 h.ready
  cases o with
  | leaf id hd => exact h.resolve_intact hready trivial hlayouts ht
  | branch id hd content =>
    rcases hready with ⟨ho, hc⟩ | ⟨hx, found, ho, hf, hm⟩
    · exact h.resolve_intact ho hc hlayouts ht
    · have hself := Settles.node (P := fun _ => True) (hf.imp fun _ _ _ => trivial) ho hx trivial
      have hnode := hself.free id (Outline.mem_ids_singleton.2 (.inl rfl))
      rw [Outline.id, resolveNode_of_free hnode (hfree _ r fun y hy => hnode.inside hy)]
      exact h.settled hx ho hf hm

/-! ### Lists of nodes -/

namespace Resumable

theorem nil (h : c.Resumable document chain P [] r) : c.Resumed document chain P [] r (.ok []) r where
  sound := h.sound
  chain_eq := h.chain_eq
  alters := .refl _ _
  ready := trivial
  outcome := by
    refine .inr ⟨[], ?_, rfl, .nil _, fun _ hx => absurd hx List.not_mem_nil, fun _ hx => absurd hx List.not_mem_nil⟩
    rw [Outline.markupAll, meaningAll]

section

variable (h : c.Resumable document chain P (o :: os) r) (h₁ : c.Resumed document chain P [o] r out r₁)
include h h₁

/-- The nodes after the first are left as they are by it. -/
theorem rest : r₁.store.ReadyAll (c.meaningAll document chain) P os := by
  refine h.ready.2.alters h₁.alters (fun x hx hm => ?_) fun x hx hm => h.apart x hm hx
  exact (h.old x (Outline.mem_ids_cons.2 (.inl hm))).2 hx

theorem next : c.Resumable document chain P os r₁ where
  sound := h₁.sound
  chain_eq := h₁.chain_eq
  nodup := (List.nodup_append'.1 (Outline.ids_append [o] os ▸ h.nodup)).2.1
  old x hx := (h.old x (Outline.mem_ids_cons.2 (.inr hx))).imp_left h₁.alters.size_le.trans_lt'
  ready := h.rest h₁

end

theorem firstStop {e : Failure} (h : c.Resumable document chain P (o :: os) r)
    (h₁ : c.Resumed document chain P [o] r (.error e) r₁) : c.Resumed document chain P (o :: os) r (.error e) r₁ where
  sound := h₁.sound
  chain_eq := h₁.chain_eq
  alters := h₁.alters.mono fun _ hx => Outline.mem_ids_cons.2 (.inl hx)
  ready := ⟨h₁.ready.1, (h.rest h₁).imp (fun _ _ h => h) fun _ _ => .inl⟩
  outcome := .inl ⟨e, by rw [meaningAll_first, h₁.error]; rfl, rfl⟩

/-- What the first node has come to is left alone by the others. -/
theorem cons {here : List NodeId} (h : c.Resumable document chain P (o :: os) r)
    (h₁ : c.Resumed document chain P [o] r (.ok here) r₁) (h₂ : c.Resumed document chain P os r₁ out r₂) :
    c.Resumed document chain P (o :: os) r (out.map (here ++ ·)) r₂ := by
  have hfirst : ids [o] ⊆ ids (o :: os) := fun x hx => Outline.mem_ids_cons.2 (.inl hx)
  have hlater : ids os ⊆ ids (o :: os) := fun x hx => Outline.mem_ids_cons.2 (.inr hx)
  have hapart : ∀ x, P x ∨ r.store.size ≤ x → x ∉ ids os := by
    rintro x (hx | hx) hm
    · exact (h.old x (hlater hm)).2 hx
    · exact not_lt.2 hx (h.old x (hlater hm)).1
  obtain ⟨found, hfound, rfl, hs⟩ := h₁.ok
  refine ⟨h₂.sound, h₂.chain_eq, ?_, ⟨?_, ?_⟩, ?_⟩
  · exact (h₁.alters.mono hfirst).trans h₂.alters fun x _ hx => hlater hx
  · exact h₁.ready.1.alters h₂.alters hapart h.apart
  · exact h₂.ready.imp (fun _ _ h => h) fun x _ => Or.imp_right h₁.alters.size_le.trans
  · rw [meaningAll_first, hfound]
    rcases h₂.outcome with ⟨e, hm, rfl⟩ | ⟨found', hm, rfl, hs'⟩
    · exact .inl ⟨e, by rw [hm]; rfl, rfl⟩
    · refine .inr ⟨found ++ found', ?_, congrArg Except.ok List.map_append.symm, .append ?_ ?_⟩
      · rw [hm, Outline.markupAll_append]
        rfl
      · refine (hs.alters h₂.alters ?_).imp fun x _ => Or.imp_left (@hfirst x)
        exact fun x hx => hx.elim (h.apart x) (hapart x)
      · exact hs'.imp fun x _ => Or.imp (@hlater x) (Or.imp_right h₁.alters.size_le.trans)

end Resumable

/-- Visiting the nodes one after the other resolves them all. -/
theorem resumes_flatVisit {visit : NodeId → Step (List NodeId)}
    (hv : ∀ o ∈ os, c.Resumes document chain [o] (visit o.id)) :
    c.Resumes document chain os (flatVisit visit (os.map Outline.id)) := by
  induction os with
  | nil => exact fun P r h => h.nil
  | cons o os ih =>
    intro P r h
    rw [List.map_cons, flatVisit, Step.run_bind]
    rcases hrun : (visit o.id).run r with ⟨out, r₁⟩
    have h₁ := (hv o (List.mem_cons_self ..)).of_run h.first hrun
    cases out with
    | error e => exact h.firstStop h₁
    | ok here =>
      simp only [Step.run_bind]
      rcases hrun' : (flatVisit visit (os.map Outline.id)).run r₁ with ⟨out, r₂⟩
      have h₂ := (ih fun o ho => hv o (List.mem_cons_of_mem _ ho)).of_run (h.next h₁) hrun'
      have hcons := h.cons h₁ h₂
      cases out with
      | error e => exact hcons
      | ok after => exact hcons

/-- The depth is never met by a tree that is no higher. -/
theorem resumes_resolveTo
    (hi : ∀ r : Run, r.chain = chain → r.store.Sound →
      ∀ path ∉ chain, c.Follows (.layout document path) (inherit document path) r)
    {depth : ℕ} (hd : heightAll os ≤ depth) :
    c.Resumes document chain os (c.resolveTo inherit document depth (os.map Outline.id)) := by
  induction depth generalizing os with
  | zero =>
    cases os with
    | nil =>
      change c.Resumes document chain [] (flatVisit (fun _ => return []) [])
      exact resumes_flatVisit fun _ h => absurd h List.not_mem_nil
    | cons o os =>
      have := o.height_eq
      rw [heightAll] at hd
      omega
  | succ depth ih =>
    rw [resolveTo]
    refine resumes_flatVisit fun o ho => resumes_resolveNode hi (fun _ _ => resolveTo_of_free) (ih ?_)
    have hheight := (Outline.height_le ho).trans hd
    rw [o.height_eq] at hheight
    exact Nat.le_of_succ_le_succ hheight

theorem Resumable.resolved (h : c.Resumable document chain P os r) (hd : heightAll os ≤ r.store.size) :
    c.Resumed document chain P os r ((c.resolve document (os.map Outline.id)).run r).1
      ((c.resolve document (os.map Outline.id)).run r).2 := by
  refine resumes_resolveTo (fun r₁ hr₁ hs₁ path hp => ?_) hd P r h
  exact follows_inherited _ document path r₁ (Nat.lt_succ_of_le (List.length_filter_le ..)) (hr₁ ▸ hp) hs₁

theorem Resumed.document_eq (h : c.Resumed document chain P os r out r₁) :
    out.map r₁.store.document = c.meaningAll document chain (Outline.markupAll os) := by
  rcases h.outcome with ⟨e, hm, rfl⟩ | ⟨found, hm, rfl, hs⟩
  · exact hm.symm
  · rw [hm]
    exact congrArg Except.ok (hs.depicts.document_eq h.sound)

end Resolver

end LayoutInheritance
