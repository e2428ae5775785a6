import LayoutInheritance.Proofs.Inheritance.Meaning

/-! Trees that may be resolved, for the first time or again. A resolution that fails leaves its tree partly rewritten:
the contents of some nodes have been replaced, and others are linked into layouts that nobody holds any more. What has
been replaced is what it would be replaced by, and it is shared with nothing that is still to be resolved. Changes
elsewhere make no difference to that. -/

namespace LayoutInheritance

open Outline (ids partsAll heightAll)

namespace Store

variable {s s₁ s' : Store} {N M : List NodeId} {P Q : NodeId → Prop} {o : Outline} {os found : List Outline}
  {mean mean' : List Markup → Except Failure (List Markup)}

/-! ### What is altered and what stays -/

/-- Of the old nodes, contents change in the nodes `N` alone. -/
structure Alters (N : List NodeId) (s s' : Store) : Prop where
  size_le : s.size ≤ s'.size
  head : ∀ x < s.size, s'.head x = s.head x
  frame : ∀ x < s.size, x ∉ N → s'.content? x = s.content? x

theorem Alters.refl (N : List NodeId) (s : Store) : s.Alters N s :=
  ⟨le_rfl, fun _ _ => rfl, fun _ _ _ => rfl⟩

theorem Alters.trans (h₁ : s.Alters N s₁) (h₂ : s₁.Alters M s') (hM : ∀ x < s.size, x ∈ M → x ∈ N) :
    s.Alters N s' where
  size_le := h₁.size_le.trans h₂.size_le
  head x hx := (h₂.head x (hx.trans_le h₁.size_le)).trans (h₁.head x hx)
  frame x hx hN := (h₂.frame x (hx.trans_le h₁.size_le) fun hm => hN (hM x hx hm)).trans (h₁.frame x hx hN)

theorem Alters.mono (h : s.Alters M s') (hM : M ⊆ N) : s.Alters N s' :=
  (Alters.refl N s).trans h fun _ _ hm => hM hm

theorem Change.alters (h : s.Change N s') : s.Alters N s' :=
  ⟨h.size_le, h.head, h.frame⟩

theorem Alters.setContent (s : Store) (id : NodeId) (content : List NodeId) :
    s.Alters [id] (s.setContent id content) where
  size_le := (size_setContent ..).ge
  head _ _ := head_setContent ..
  frame _ _ hx := content?_setContent_ne (List.ne_of_not_mem_cons hx) content

theorem Shows.alters (h : s.Shows o) (ha : s.Alters N s') (ho : o.id ∉ N) : s'.Shows o :=
  ⟨h.lt_size.trans_le ha.size_le, (ha.head _ h.lt_size).trans h.head, (ha.frame _ h.lt_size ho).trans h.content?⟩

/-- The store has the outlines, in nodes of `P`, and nothing in them extends a layout. -/
structure Settles (s : Store) (P : NodeId → Prop) (found : List Outline) : Prop where
  depicts : s.Depicts found
  plain : ∀ x ∈ ids found, (s.head x).isExtends = false
  region : ∀ x ∈ ids found, P x

theorem Settles.imp (h : s.Settles P found) (hP : ∀ x < s.size, P x → Q x) : s.Settles Q found :=
  ⟨h.depicts, h.plain, fun x hx => hP x (h.depicts.lt_size hx) (h.region x hx)⟩

theorem Settles.alters (h : s.Settles P found) (ha : s.Alters N s') (hP : ∀ x, P x → x ∉ N) : s'.Settles P found where
  depicts := h.depicts.frame ha.size_le (fun x hx => ha.head x (h.depicts.lt_size hx))
    fun x hx => ha.frame x (h.depicts.lt_size hx) (hP x (h.region x hx))
  plain x hx := by
    rw [ha.head x (h.depicts.lt_size hx)]
    exact h.plain x hx
  region := h.region

theorem Settles.append {a b : List Outline} (ha : s.Settles P a) (hb : s.Settles P b) : s.Settles P (a ++ b) := by
  refine ⟨ha.depicts.append hb.depicts, fun x hx => ?_, fun x hx => ?_⟩
  · rw [Outline.ids_append, List.mem_append] at hx
    exact hx.elim (ha.plain x) (hb.plain x)
  · rw [Outline.ids_append, List.mem_append] at hx
    exact hx.elim (ha.region x) (hb.region x)

theorem Settles.free (h : s.Settles P found) : ∀ x ∈ ids found, s.Free Head.isExtends x :=
  fun _ hx => .of_closed (P := (· ∈ ids found)) (fun _ hx _ hy => h.depicts.closed hx hy) h.plain hx

/-- A node over what is settled. -/
theorem Settles.node {id : NodeId} {h : Head Markup} (hf : s.Settles P found) (ho : s.Shows (.branch id h found))
    (hx : h.isExtends = false) (hid : P id) : s.Settles P [.branch id h found] where
  depicts := .node ho hf.depicts
  plain x hm := by
    rcases Outline.mem_ids_singleton.1 hm with he | hm
    · rw [he, ho.head]
      exact hx
    · exact hf.plain x hm
  region x hm := by
    rcases Outline.mem_ids_singleton.1 hm with rfl | hm
    · exact hid
    · exact hf.region x hm

/-! ### Trees that may be resolved -/

mutual

/-- A node may be resolved, for the first time or again. It is as its outline shows it, and what lies in it may be
resolved; or its content has been replaced by what this comes to, in nodes of its own and of `P`. -/
def Ready (s : Store) (mean : List Markup → Except Failure (List Markup)) (P : NodeId → Prop) : Outline → Prop
  | .leaf id h => s.Shows (.leaf id h)
  | .branch id h content =>
    s.Shows (.branch id h content) ∧ s.ReadyAll mean P content ∨
      h.isExtends = false ∧ ∃ found, s.Shows (.branch id h found) ∧
        s.Settles (fun x => x ∈ ids content ∨ P x) found ∧
        mean (Outline.markupAll content) = .ok (Outline.markupAll found)

def ReadyAll (s : Store) (mean : List Markup → Except Failure (List Markup)) (P : NodeId → Prop) :
    List Outline → Prop
  | [] => True
  | o :: os => s.Ready mean P o ∧ s.ReadyAll mean P os

end

theorem Ready.intact (ho : s.Shows o) (hc : s.ReadyAll mean P o.content) : s.Ready mean P o := by
  cases o with
  | leaf id h => exact ho
  | branch id h content => exact .inl ⟨ho, hc⟩

theorem readyAll_singleton : s.ReadyAll mean P [o] ↔ s.Ready mean P o :=
  and_iff_left trivial

mutual

theorem Ready.of_holds : ∀ {o : Outline}, s.Holds [o] → s.Ready mean P o
  | .leaf _ _, h => h.root
  | .branch _ _ _, h => .inl ⟨h.root, ReadyAll.of_holds h.content⟩

/-- What has just been stored may be resolved. -/
theorem ReadyAll.of_holds : ∀ {os : List Outline}, s.Holds os → s.ReadyAll mean P os
  | [], _ => trivial
  | _ :: _, h => ⟨Ready.of_holds h.first, ReadyAll.of_holds h.rest⟩

end

mutual

theorem Ready.imp (hm : ∀ ms found, mean ms = .ok found → mean' ms = .ok found) (hP : ∀ x < s.size, P x → Q x) :
    ∀ {o : Outline}, s.Ready mean P o → s.Ready mean' Q o
  | .leaf _ _, h => h
  | .branch _ _ _, .inl ⟨ho, hc⟩ => .inl ⟨ho, ReadyAll.imp hm hP hc⟩
  | .branch _ _ _, .inr ⟨hx, found, ho, hf, hfound⟩ =>
    .inr ⟨hx, found, ho, hf.imp fun x hlt => Or.imp_right (hP x hlt), hm _ _ hfound⟩

theorem ReadyAll.imp (hm : ∀ ms found, mean ms = .ok found → mean' ms = .ok found) (hP : ∀ x < s.size, P x → Q x) :
    ∀ {os : List Outline}, s.ReadyAll mean P os → s.ReadyAll mean' Q os
  | [], _ => trivial
  | _ :: _, ⟨ho, hos⟩ => ⟨Ready.imp hm hP ho, ReadyAll.imp hm hP hos⟩

end

mutual

theorem Ready.alters (ha : s.Alters N s') (hP : ∀ x, P x → x ∉ N) :
    ∀ {o : Outline}, (∀ x ∈ ids [o], x ∉ N) → s.Ready mean P o → s'.Ready mean P o
  | .leaf _ _, hN, h => Shows.alters h ha (hN _ (Outline.mem_ids_singleton.2 (.inl rfl)))
  | .branch _ _ _, hN, .inl ⟨ho, hc⟩ => .inl ⟨ho.alters ha (hN _ (Outline.mem_ids_singleton.2 (.inl rfl))),
      ReadyAll.alters ha hP (fun x hx => hN x (Outline.mem_ids_singleton.2 (.inr hx))) hc⟩
  | .branch _ _ _, hN, .inr ⟨hx, found, ho, hf, hfound⟩ => .inr ⟨hx, found,
      ho.alters ha (hN _ (Outline.mem_ids_singleton.2 (.inl rfl))),
      hf.alters ha fun x hx => hx.elim (fun hx => hN x (Outline.mem_ids_singleton.2 (.inr hx))) (hP x), hfound⟩

/-- Changes elsewhere make no difference. -/
theorem ReadyAll.alters (ha : s.Alters N s') (hP : ∀ x, P x → x ∉ N) :
    ∀ {os : List Outline}, (∀ x ∈ ids os, x ∉ N) → s.ReadyAll mean P os → s'.ReadyAll mean P os
  | [], _, _ => trivial
  | _ :: _, hN, ⟨ho, hos⟩ => ⟨Ready.alters ha hP (fun x hx => hN x (Outline.mem_ids_cons.2 (.inl hx))) ho,
      ReadyAll.alters ha hP (fun x hx => hN x (Outline.mem_ids_cons.2 (.inr hx))) hos⟩

end

/-! ### Merging what is settled -/

theorem Depicts.head_of_free (h : s.Depicts os) (hs : s.Sound) {p : Head Markup → Bool}
    (hf : ∀ o ∈ os, s.Free p o.id) : ∀ x ∈ ids os, p (s.head x) = false := by
  intro x hx
  rw [← h.outline_eq hs] at hx
  obtain ⟨q, hq, rfl⟩ := List.mem_map.1 hx
  obtain ⟨o', ho', hq⟩ := Outline.mem_partsAll.1 hq
  obtain ⟨_, hid, rfl⟩ := List.mem_map.1 ho'
  obtain ⟨o, ho, rfl⟩ := List.mem_map.1 hid
  exact hf o ho q.id (outlineTo_parts s _ o.id q hq).1

theorem Settles.merged {ls ts : List Outline} (hs : s.Sound) (hl : s.Settles P ls) (ht : s.Settles Q ts)
    (hd : ∀ x, P x → ¬ Q x) :
    let m := s.merge (ls.map Outline.id) (ts.map Outline.id)
    s.Merged ls ts m ∧ (m.issue? = none → ∃ after : List Outline, after.map Outline.id = ls.map Outline.id ∧
      Outline.markupAll after = substitution ls (Outline.markupAll ts) ∧
      m.store.Settles (fun x => P x ∨ Q x) after) := by
  intro m
  have hm := Depicts.merged hs hl.depicts ht.depicts fun x hx hx' => hd x (hl.region x hx) (ht.region x hx')
  refine ⟨hm, fun hnone => ?_⟩
  obtain ⟨after, hid, hmarkup, hafter, hregion⟩ := hm.result hnone
  refine ⟨after, hid, hmarkup, hafter, fun x hx => ?_, fun x hx => ?_⟩
  · rw [hm.head]
    exact (hregion x hx).elim (hl.plain x) (ht.plain x)
  · exact (hregion x hx).imp (hl.region x) (ht.region x)

end Store

end LayoutInheritance
