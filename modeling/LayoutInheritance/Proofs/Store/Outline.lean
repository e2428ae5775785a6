import LayoutInheritance.Proofs.Markup.Shape
import LayoutInheritance.Proofs.Store.Graph
import Mathlib.Data.List.Nodup
import Mathlib.Data.List.Perm.Subperm
import Mathlib.Data.List.Range

/-! Outlines and the stores that hold them. A store holds a list of outlines when each node stands in it
as its outline shows it, and no two places of the outlines are the same node. What is newly stored is held
in nodes of its own, and a store goes on holding what a change leaves alone. -/

namespace LayoutInheritance

namespace Outline

def head : Outline → Head Markup
  | leaf _ h => h
  | branch _ h _ => h

def content? : Outline → Option (List Outline)
  | leaf _ _ => none
  | branch _ _ content => some content

def content (o : Outline) : List Outline :=
  o.content?.getD []

mutual

/-- The outline and all that lies in it, itself first. -/
def parts : Outline → List Outline
  | leaf id h => [leaf id h]
  | branch id h content => branch id h content :: partsAll content

def partsAll : List Outline → List Outline
  | [] => []
  | o :: rest => o.parts ++ partsAll rest

end

/-- The nodes at all places of the outlines. -/
def ids (os : List Outline) : List NodeId :=
  (partsAll os).map id

theorem parts_eq (o : Outline) : o.parts = o :: partsAll o.content := by
  cases o <;> simp [parts, partsAll, content, content?]

theorem mem_parts_self (o : Outline) : o ∈ o.parts := by
  simp [parts_eq]

theorem partsAll_append (as bs : List Outline) : partsAll (as ++ bs) = partsAll as ++ partsAll bs := by
  induction as with
  | nil => rfl
  | cons o as ih => simp [partsAll, ih]

theorem mem_partsAll {p : Outline} {os : List Outline} : p ∈ partsAll os ↔ ∃ o ∈ os, p ∈ o.parts := by
  induction os with
  | nil => simp [partsAll]
  | cons o os ih => simp [partsAll, ih]

theorem mem_partsAll_of_mem {o : Outline} {os : List Outline} (h : o ∈ os) : o ∈ partsAll os :=
  mem_partsAll.2 ⟨o, h, mem_parts_self o⟩

theorem length_parts_le {o : Outline} {os : List Outline} (h : o ∈ os) :
    o.parts.length ≤ (partsAll os).length := by
  obtain ⟨a, b, rfl⟩ := List.append_of_mem h
  simp only [partsAll_append, partsAll, List.length_append]
  omega

mutual

/-- What stands directly in a part is a part. -/
theorem mem_parts_of_content {p q : Outline} (hq : q ∈ p.content) : ∀ {o : Outline}, p ∈ o.parts → q ∈ o.parts
  | leaf id h, hp => by
    rw [parts, List.mem_singleton] at hp
    rw [hp] at hq
    exact nomatch hq
  | branch id h content, hp => by
    rw [parts, List.mem_cons] at hp ⊢
    rcases hp with rfl | hp
    · exact .inr (mem_partsAll_of_mem hq)
    · exact .inr (mem_partsAll_of_content hq hp)

theorem mem_partsAll_of_content {p q : Outline} (hq : q ∈ p.content) :
    ∀ {os : List Outline}, p ∈ partsAll os → q ∈ partsAll os
  | [], hp => nomatch hp
  | o :: os, hp => by
    rw [partsAll, List.mem_append] at hp ⊢
    exact hp.imp (mem_parts_of_content hq) (mem_partsAll_of_content hq)

end

mutual

theorem parts_sublist_parts {p : Outline} : ∀ {o : Outline}, p ∈ o.parts → p.parts.Sublist o.parts
  | leaf id h, hp => by
    rw [parts, List.mem_singleton] at hp
    rw [hp]
  | branch id h content, hp => by
    rw [parts, List.mem_cons] at hp
    rcases hp with rfl | hp
    · exact .refl _
    · exact (parts_sublist hp).cons _

/-- A part brings its own parts, in their order. -/
theorem parts_sublist {p : Outline} : ∀ {os : List Outline}, p ∈ partsAll os → p.parts.Sublist (partsAll os)
  | [], hp => nomatch hp
  | o :: os, hp => by
    rw [partsAll, List.mem_append] at hp
    rcases hp with hp | hp
    · exact (parts_sublist_parts hp).trans (List.sublist_append_left ..)
    · exact (parts_sublist hp).trans (List.sublist_append_right ..)

end

@[simp] theorem ids_nil : ids [] = [] := rfl

theorem ids_append (as bs : List Outline) : ids (as ++ bs) = ids as ++ ids bs := by
  simp [ids, partsAll_append]

theorem ids_cons (o : Outline) (os : List Outline) : ids (o :: os) = o.id :: (ids o.content ++ ids os) := by
  simp [ids, partsAll, parts_eq]

theorem ids_singleton (o : Outline) : ids [o] = o.id :: ids o.content := by
  simp [ids_cons]

theorem mem_ids_cons {x : NodeId} {o : Outline} {os : List Outline} :
    x ∈ ids (o :: os) ↔ x ∈ ids [o] ∨ x ∈ ids os := by
  rw [show o :: os = [o] ++ os from rfl, ids_append, List.mem_append]

theorem mem_ids_singleton {x : NodeId} {o : Outline} : x ∈ ids [o] ↔ x = o.id ∨ x ∈ ids o.content := by
  rw [ids_singleton, List.mem_cons]

theorem mem_ids_of_mem {o : Outline} {os : List Outline} (h : o ∈ os) : o.id ∈ ids os :=
  List.mem_map_of_mem (mem_partsAll_of_mem h)

theorem ids_content_subset {p : Outline} {os : List Outline} (h : p ∈ partsAll os) :
    ids p.content ⊆ ids os := by
  refine List.map_subset _ fun q hq => (parts_sublist h).subset ?_
  rw [parts_eq]
  exact List.mem_cons_of_mem _ hq

theorem markupAll_singleton (o : Outline) : markupAll [o] = [o.markup] := rfl

theorem markupAll_append (as bs : List Outline) : markupAll (as ++ bs) = markupAll as ++ markupAll bs := by
  induction as with
  | nil => rfl
  | cons o as ih => simp [markupAll, ih]

end Outline

namespace Store

open Outline (ids parts partsAll)

variable {s s' : Store} {os : List Outline}

/-- A node stands in the store as the outline shows it. -/
structure Shows (s : Store) (o : Outline) : Prop where
  lt_size : o.id < s.size
  head : s.head o.id = o.head
  content? : s.content? o.id = o.content?.map (·.map Outline.id)

theorem Shows.content {o : Outline} (h : s.Shows o) : s.content o.id = o.content.map Outline.id := by
  rw [Store.content, h.content?, Outline.content]
  cases o.content? <;> rfl

/-- The outlines are in the store, every place of them in a node of its own. -/
structure Holds (s : Store) (os : List Outline) : Prop where
  shows : ∀ o ∈ partsAll os, s.Shows o
  nodup : (ids os).Nodup

namespace Holds

theorem nil (s : Store) : s.Holds [] :=
  ⟨fun _ h => (nomatch h), List.nodup_nil⟩

variable {a b : List Outline}

theorem append (ha : s.Holds a) (hb : s.Holds b) (hd : ∀ x ∈ ids a, x ∉ ids b) : s.Holds (a ++ b) := by
  constructor
  · intro o ho
    rw [Outline.partsAll_append, List.mem_append] at ho
    exact ho.elim (ha.shows o) (hb.shows o)
  · rw [Outline.ids_append]
    exact ha.nodup.append hb.nodup fun x hx hy => hd x hx hy

theorem left (h : s.Holds (a ++ b)) : s.Holds a where
  shows o ho := h.shows o (by rw [Outline.partsAll_append]; exact List.mem_append_left _ ho)
  nodup := (List.nodup_append'.1 (Outline.ids_append a b ▸ h.nodup)).1

theorem right (h : s.Holds (a ++ b)) : s.Holds b where
  shows o ho := h.shows o (by rw [Outline.partsAll_append]; exact List.mem_append_right _ ho)
  nodup := (List.nodup_append'.1 (Outline.ids_append a b ▸ h.nodup)).2.1

theorem disjoint (h : s.Holds (a ++ b)) : ∀ x ∈ ids a, x ∉ ids b :=
  (List.nodup_append'.1 (Outline.ids_append a b ▸ h.nodup)).2.2

theorem first {o : Outline} (h : s.Holds (o :: os)) : s.Holds [o] :=
  left (a := [o]) h

theorem rest {o : Outline} (h : s.Holds (o :: os)) : s.Holds os :=
  right (a := [o]) h

theorem apart {o : Outline} (h : s.Holds (o :: os)) : ∀ x ∈ ids [o], x ∉ ids os :=
  disjoint (a := [o]) h

theorem root {o : Outline} (h : s.Holds [o]) : s.Shows o :=
  h.shows o (Outline.mem_partsAll_of_mem (by simp))

theorem content {o : Outline} (h : s.Holds [o]) : s.Holds o.content := by
  have hn := h.nodup
  rw [Outline.ids_singleton, List.nodup_cons] at hn
  refine ⟨fun p hp => h.shows p ?_, hn.2⟩
  simp [partsAll, Outline.parts_eq, hp]

theorem of_part (h : s.Holds os) {p : Outline} (hp : p ∈ partsAll os) : s.Holds [p] := by
  have hsub : (partsAll [p]).Sublist (partsAll os) := by
    rw [partsAll, partsAll, List.append_nil]
    exact Outline.parts_sublist hp
  exact ⟨fun q hq => h.shows q (hsub.subset hq), h.nodup.sublist (hsub.map _)⟩

theorem root_not_mem {o : Outline} (h : s.Holds [o]) : o.id ∉ ids o.content := by
  have hn := h.nodup
  rw [Outline.ids_singleton, List.nodup_cons] at hn
  exact hn.1

theorem node {o : Outline} (hr : s.Shows o) (hc : s.Holds o.content) (hn : o.id ∉ ids o.content) :
    s.Holds [o] := by
  constructor
  · intro p hp
    simp only [partsAll, Outline.parts_eq, List.append_nil, List.mem_cons] at hp
    rcases hp with rfl | hp
    · exact hr
    · exact hc.shows p hp
  · rw [Outline.ids_singleton, List.nodup_cons]
    exact ⟨hn, hc.nodup⟩

/-- Different places are different nodes. -/
theorem eq_of_id_eq (h : s.Holds os) {p q : Outline} (hp : p ∈ partsAll os) (hq : q ∈ partsAll os)
    (hid : p.id = q.id) : p = q :=
  List.inj_on_of_nodup_map h.nodup hp hq hid

theorem lt_size (h : s.Holds os) {x : NodeId} (hx : x ∈ ids os) : x < s.size := by
  obtain ⟨o, ho, rfl⟩ := List.mem_map.1 hx
  exact (h.shows o ho).lt_size

/-- The contents of held nodes are held. -/
theorem closed (h : s.Holds os) {x y : NodeId} (hx : x ∈ ids os) (hy : y ∈ s.content x) : y ∈ ids os := by
  obtain ⟨p, hp, rfl⟩ := List.mem_map.1 hx
  rw [(h.shows p hp).content] at hy
  obtain ⟨q, hq, rfl⟩ := List.mem_map.1 hy
  exact List.mem_map_of_mem (Outline.mem_partsAll_of_content hq hp)

theorem frame (h : s.Holds os) (hs : s.size ≤ s'.size) (hh : ∀ x ∈ ids os, s'.head x = s.head x)
    (hc : ∀ x ∈ ids os, s'.content? x = s.content? x) : s'.Holds os := by
  refine ⟨fun o ho => ?_, h.nodup⟩
  have hx : o.id ∈ ids os := List.mem_map_of_mem ho
  have hp := h.shows o ho
  exact ⟨hp.lt_size.trans_le hs, (hh _ hx).trans hp.head, (hc _ hx).trans hp.content?⟩

/-- There are no more places than nodes. -/
theorem length_le (h : s.Holds os) : (partsAll os).length ≤ s.size := by
  have hsub : ids os ⊆ List.range s.size := fun x hx => List.mem_range.2 (h.lt_size hx)
  simpa [ids] using (h.nodup.subperm hsub).length_le

theorem outlineTo_eq {depth : Nat} {o : Outline} (h : s.Holds [o]) (hd : o.parts.length ≤ depth) :
    s.outlineTo depth o.id = o := by
  induction depth generalizing o with
  | zero =>
    rw [Outline.parts_eq, List.length_cons] at hd
    omega
  | succ depth ih =>
    have hr := h.root
    cases o with
    | leaf id hd' =>
      have hc : s.content? id = none := hr.content?
      have hh : s.head id = hd' := hr.head
      simp only [Outline.id, outlineTo, hc, hh]
    | branch id hd' content =>
      have hc : s.content? id = some (content.map Outline.id) := hr.content?
      have hh : s.head id = hd' := hr.head
      have hm : (content.map Outline.id).map (s.outlineTo depth) = content := by
        rw [List.map_map]
        refine (List.map_congr_left fun q hq => ?_).trans (List.map_id content)
        have hl := Outline.length_parts_le hq
        rw [parts, List.length_cons] at hd
        exact ih (h.content.of_part (Outline.mem_partsAll_of_mem hq)) (by omega)
      simp only [Outline.id, outlineTo, hc, hh, hm]

/-- What is held is what the store shows. -/
theorem outline_eq (h : s.Holds os) : s.outline (os.map Outline.id) = os := by
  rw [Store.outline, List.map_map]
  refine (List.map_congr_left fun o ho => ?_).trans (List.map_id os)
  exact (h.of_part (Outline.mem_partsAll_of_mem ho)).outlineTo_eq ((Outline.length_parts_le ho).trans h.length_le)

theorem document_eq (h : s.Holds os) : s.document (os.map Outline.id) = Outline.markupAll os := by
  rw [document, h.outline_eq]

end Holds

/-! ### Storing a document -/

/-- `os` has been stored in new nodes, and the old ones have been left alone. -/
structure Stored (s : Store) (os : List Outline) (s' : Store) : Prop where
  holds : s'.Holds os
  fresh : ∀ x ∈ ids os, s.size ≤ x
  size_le : s.size ≤ s'.size
  head : ∀ x < s.size, s'.head x = s.head x
  content? : ∀ x < s.size, s'.content? x = s.content? x
  region : ∀ x, s.size ≤ x → x < s'.size → x ∈ ids os
  sound : s.Sound → Markup.TaggedAll (Outline.markupAll os) → s'.Sound

theorem Stored.nil (s : Store) : s.Stored [] s where
  holds := .nil s
  fresh _ h := nomatch h
  size_le := le_rfl
  head _ _ := rfl
  content? _ _ := rfl
  region _ h h' := absurd h (not_le.2 h')
  sound h _ := h

theorem Stored.cons {s s₁ s₂ : Store} {o : Outline} {os : List Outline} (h₁ : s.Stored [o] s₁)
    (h₂ : s₁.Stored os s₂) : s.Stored (o :: os) s₂ := by
  have old : ∀ x ∈ ids [o], x < s₁.size := fun x hx => h₁.holds.lt_size hx
  constructor
  · apply Holds.append (a := [o])
    · exact h₁.holds.frame h₂.size_le (fun x hx => h₂.head x (old x hx)) (fun x hx => h₂.content? x (old x hx))
    · exact h₂.holds
    · intro x hx hy
      exact not_lt.2 (h₂.fresh x hy) (old x hx)
  · intro x hx
    exact (Outline.mem_ids_cons.1 hx).elim (h₁.fresh x) fun hx => h₁.size_le.trans (h₂.fresh x hx)
  · exact h₁.size_le.trans h₂.size_le
  · intro x hx
    rw [h₂.head x (hx.trans_le h₁.size_le), h₁.head x hx]
  · intro x hx
    rw [h₂.content? x (hx.trans_le h₁.size_le), h₁.content? x hx]
  · intro x hx hy
    rw [Outline.mem_ids_cons]
    by_cases hm : x < s₁.size
    · exact .inl (h₁.region x hx hm)
    · exact .inr (h₂.region x (not_lt.1 hm) hy)
  · intro hs ht
    rw [Outline.markupAll, Markup.TaggedAll] at ht
    apply h₂.sound _ ht.2
    exact h₁.sound hs ⟨ht.1, trivial⟩

/-- A new node over contents that have just been stored. -/
theorem Stored.create {s s₁ : Store} {os : List Outline} (h : s.Stored os s₁) (hd : Head Markup)
    {o : Outline} (hid : o.id = s₁.size) (hh : o.head = hd) (hc : o.content = os)
    (ht : s₁.Sound → o.markup.Tagged → os ≠ [] → hd.isTag)
    (hm : o.markup.Tagged → Markup.TaggedAll (Outline.markupAll os)) :
    s.Stored [o] (s₁.create hd (o.content?.map (·.map Outline.id))).1 := by
  set s₂ := (s₁.create hd (o.content?.map (·.map Outline.id))).1 with hs₂
  have new : o.id ∉ ids os := fun hx => (h.holds.lt_size hx).ne hid
  have hsize : s₂.size = s₁.size + 1 := size_create ..
  have head_ne : ∀ x < s₁.size, s₂.head x = s₁.head x := by
    intro x hx
    rw [hs₂, head_create, if_neg hx.ne]
  have content_ne : ∀ x < s₁.size, s₂.content? x = s₁.content? x := by
    intro x hx
    rw [hs₂, content?_create, if_neg hx.ne]
  have hold : s₂.Holds os := h.holds.frame (by omega) (fun x hx => head_ne x (h.holds.lt_size hx))
    (fun x hx => content_ne x (h.holds.lt_size hx))
  constructor
  · refine .node ⟨?_, ?_, ?_⟩ (hc.symm ▸ hold) (hc.symm ▸ new)
    · rw [hid, hsize]
      exact Nat.lt_succ_self _
    · rw [hid, hs₂, head_create, if_pos rfl, hh]
    · rw [hid, hs₂, content?_create, if_pos rfl]
  · intro x hx
    rw [Outline.mem_ids_singleton, hc] at hx
    rcases hx with rfl | hx
    · exact h.size_le.trans_eq hid.symm
    · exact h.fresh x hx
  · exact h.size_le.trans (by omega)
  · intro x hx
    rw [head_ne x (hx.trans_le h.size_le), h.head x hx]
  · intro x hx
    rw [content_ne x (hx.trans_le h.size_le), h.content? x hx]
  · intro x hx hy
    rw [Outline.mem_ids_singleton, hc, hid]
    rw [hsize] at hy
    rcases Nat.lt_succ_iff_lt_or_eq.1 hy with hy | hy
    · exact .inr (h.region x hx hy)
    · exact .inl hy
  · intro hs hm'
    rw [Outline.markupAll, Markup.TaggedAll] at hm'
    have h₁ := h.sound hs (hm hm'.1)
    have hg : (o.content?.map (·.map Outline.id)).getD [] = os.map Outline.id := by
      rw [← hc, Outline.content]
      cases o.content? <;> rfl
    apply h₁.create
    · intro y hy
      rw [hg] at hy
      obtain ⟨q, hq, rfl⟩ := List.mem_map.1 hy
      exact h.holds.lt_size (Outline.mem_ids_of_mem hq)
    · intro hy
      rw [hg] at hy
      exact ht h₁ hm'.1 (by rintro rfl; exact hy rfl)

mutual

/-- Storing a node gives an outline of it. -/
theorem stored_add (s : Store) : ∀ m : Markup, ∃ o : Outline,
    o.markup = m ∧ o.id = (s.add m).2 ∧ s.Stored [o] (s.add m).1
  | .leaf h =>
    ⟨.leaf s.size h, rfl, rfl, (Stored.nil s).create h (o := .leaf s.size h) rfl rfl rfl
      (fun _ _ hn => absurd rfl hn) fun _ => trivial⟩
  | .branch h content => by
    obtain ⟨os, hm, hid, hs⟩ := stored_addAll s content
    refine ⟨.branch (s.addAll content).1.size h os, ?_, rfl, ?_⟩
    · rw [Outline.markup, hm]
    · have := hs.create h (o := .branch (s.addAll content).1.size h os) rfl rfl rfl
        (fun _ ht _ => ht.1) fun ht => ht.2
      rwa [Outline.content?, Option.map_some, hid] at this

theorem stored_addAll (s : Store) : ∀ ms : List Markup, ∃ os : List Outline,
    Outline.markupAll os = ms ∧ os.map Outline.id = (s.addAll ms).2 ∧ s.Stored os (s.addAll ms).1
  | [] => ⟨[], rfl, rfl, .nil s⟩
  | m :: rest => by
    obtain ⟨o, hm, hid, hs⟩ := stored_add s m
    obtain ⟨os, hm', hid', hs'⟩ := stored_addAll (s.add m).1 rest
    refine ⟨o :: os, ?_, ?_, ?_⟩
    · rw [Outline.markupAll, hm, hm']
    · rw [List.map_cons, hid, hid', addAll]
    · exact hs.cons hs'

end

end Store

end LayoutInheritance
