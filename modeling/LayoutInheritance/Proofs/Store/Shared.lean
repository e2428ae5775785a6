import LayoutInheritance.Proofs.Store.Depth
import LayoutInheritance.Proofs.Store.Outline

/-! Outlines that share nodes. A store depicts a list of outlines when each place of them is as the store has
its node, and several places may be the same node. Such outlines are what the store unfolds to, if no node
lies inside itself, or if no way down the outlines passes more nodes than there are. -/

namespace LayoutInheritance

namespace Outline

mutual

/-- How many places the longest way down passes. -/
def height : Outline → Nat
  | leaf _ _ => 1
  | branch _ _ content => heightAll content + 1

def heightAll : List Outline → Nat
  | [] => 0
  | o :: rest => max o.height (heightAll rest)

end

@[simp] theorem partsAll_singleton (o : Outline) : partsAll [o] = o.parts := by
  rw [partsAll, partsAll, List.append_nil]

theorem heightAll_le_iff {os : List Outline} {n : Nat} : heightAll os ≤ n ↔ ∀ o ∈ os, o.height ≤ n := by
  induction os with
  | nil => simp [heightAll]
  | cons o os ih => simp [heightAll, ih]

theorem height_eq (o : Outline) : o.height = heightAll o.content + 1 := by
  cases o <;> rfl

theorem heightAll_singleton (o : Outline) : heightAll [o] = o.height :=
  max_eq_left (Nat.zero_le _)

theorem height_le {o : Outline} {os : List Outline} (h : o ∈ os) : o.height ≤ heightAll os :=
  heightAll_le_iff.1 le_rfl o h

mutual

theorem height_le_length : ∀ o : Outline, o.height ≤ o.parts.length
  | leaf _ _ => le_rfl
  | branch _ _ content => Nat.succ_le_succ (heightAll_le_length content)

/-- A way down passes no place twice. -/
theorem heightAll_le_length : ∀ os : List Outline, heightAll os ≤ (partsAll os).length
  | [] => le_rfl
  | o :: os => by
    have ho := height_le_length o
    have hos := heightAll_le_length os
    rw [heightAll, partsAll, List.length_append]
    omega

end

end Outline

namespace Store

open Outline (ids partsAll heightAll)

variable {s s' : Store} {o : Outline} {os a b : List Outline}

/-- A store is known by its nodes. -/
theorem ext_cells (hs : s'.size = s.size) (hh : ∀ x, s'.head x = s.head x) (hc : ∀ x, s'.content? x = s.content? x) :
    s' = s := by
  obtain ⟨cells⟩ := s
  obtain ⟨cells'⟩ := s'
  congr 1
  refine Array.ext hs fun x hx hx' => ?_
  have hhead := hh x
  have hcontent := hc x
  rw [head_eq, head_eq, Array.getElem?_eq_getElem hx, Array.getElem?_eq_getElem hx'] at hhead
  rw [content?_eq, content?_eq, Array.getElem?_eq_getElem hx, Array.getElem?_eq_getElem hx'] at hcontent
  exact congrArg₂ Cell.mk hhead hcontent

/-- Each place of the outlines is as the store has its node. -/
def Depicts (s : Store) (os : List Outline) : Prop :=
  ∀ o ∈ partsAll os, s.Shows o

theorem Holds.depicts (h : s.Holds os) : s.Depicts os :=
  h.shows

namespace Depicts

theorem nil (s : Store) : s.Depicts [] :=
  fun _ h => absurd h List.not_mem_nil

theorem append (ha : s.Depicts a) (hb : s.Depicts b) : s.Depicts (a ++ b) := by
  intro o ho
  rw [Outline.partsAll_append, List.mem_append] at ho
  exact ho.elim (ha o) (hb o)

theorem left (h : s.Depicts (a ++ b)) : s.Depicts a :=
  fun o ho => h o (by rw [Outline.partsAll_append]; exact List.mem_append_left _ ho)

theorem right (h : s.Depicts (a ++ b)) : s.Depicts b :=
  fun o ho => h o (by rw [Outline.partsAll_append]; exact List.mem_append_right _ ho)

theorem shows (h : s.Depicts os) (ho : o ∈ os) : s.Shows o :=
  h o (Outline.mem_partsAll_of_mem ho)

theorem content (h : s.Depicts os) (ho : o ∈ partsAll os) : s.Depicts o.content := by
  intro p hp
  apply h p
  refine (Outline.parts_sublist ho).subset ?_
  rw [Outline.parts_eq]
  exact List.mem_cons_of_mem _ hp

theorem node (hr : s.Shows o) (hc : s.Depicts o.content) : s.Depicts [o] := by
  intro p hp
  rw [Outline.partsAll_singleton, Outline.parts_eq, List.mem_cons] at hp
  rcases hp with rfl | hp
  · exact hr
  · exact hc p hp

theorem cons (h : s.Depicts [o]) (hos : s.Depicts os) : s.Depicts (o :: os) :=
  append h hos

theorem of_mem (h : s.Depicts os) (ho : o ∈ partsAll os) : s.Depicts [o] :=
  node (h o ho) (h.content ho)

theorem lt_size (h : s.Depicts os) {x : NodeId} (hx : x ∈ ids os) : x < s.size := by
  obtain ⟨o, ho, rfl⟩ := List.mem_map.1 hx
  exact (h o ho).lt_size

/-- The contents of depicted nodes are depicted. -/
theorem closed (h : s.Depicts os) {x y : NodeId} (hx : x ∈ ids os) (hy : y ∈ s.content x) : y ∈ ids os := by
  obtain ⟨p, hp, rfl⟩ := List.mem_map.1 hx
  rw [(h p hp).content] at hy
  obtain ⟨q, hq, rfl⟩ := List.mem_map.1 hy
  exact List.mem_map_of_mem (Outline.mem_partsAll_of_content hq hp)

theorem frame (h : s.Depicts os) (hs : s.size ≤ s'.size) (hh : ∀ x ∈ ids os, s'.head x = s.head x)
    (hc : ∀ x ∈ ids os, s'.content? x = s.content? x) : s'.Depicts os := by
  intro o ho
  have hx : o.id ∈ ids os := List.mem_map_of_mem ho
  have hp := h o ho
  exact ⟨hp.lt_size.trans_le hs, (hh _ hx).trans hp.head, (hc _ hx).trans hp.content?⟩

theorem outlineTo_eq {depth : Nat} (h : s.Depicts [o]) (hd : o.height ≤ depth) :
    s.outlineTo depth o.id = o := by
  induction depth generalizing o with
  | zero =>
    cases o <;> simp [Outline.height] at hd
  | succ depth ih =>
    have hr := h.shows (List.mem_singleton_self o)
    cases o with
    | leaf id hd' =>
      have hc : s.content? id = none := hr.content?
      have hh : s.head id = hd' := hr.head
      simp only [Outline.id, outlineTo, hc, hh]
    | branch id hd' content =>
      have hc : s.content? id = some (content.map Outline.id) := hr.content?
      have hh : s.head id = hd' := hr.head
      have hcontent : s.Depicts content := h.content (Outline.mem_partsAll_of_mem (List.mem_singleton_self _))
      have hm : (content.map Outline.id).map (s.outlineTo depth) = content := by
        rw [List.map_map]
        refine (List.map_congr_left fun q hq => ?_).trans (List.map_id content)
        have hl := Outline.height_le hq
        rw [Outline.height] at hd
        exact ih (hcontent.of_mem (Outline.mem_partsAll_of_mem hq)) (by omega)
      simp only [Outline.id, outlineTo, hc, hh, hm]

/-- What is depicted is what the store unfolds to, when no way down is longer than the store. -/
theorem outline_eq_of_height (h : s.Depicts os) (hd : heightAll os ≤ s.size) : s.outline (os.map Outline.id) = os := by
  rw [Store.outline, List.map_map]
  refine (List.map_congr_left fun o ho => ?_).trans (List.map_id os)
  exact (h.of_mem (Outline.mem_partsAll_of_mem ho)).outlineTo_eq ((Outline.height_le ho).trans hd)

end Depicts

/-! ### Sound stores -/

theorem id_outlineTo (s : Store) (depth : Nat) (x : NodeId) : (s.outlineTo depth x).id = x := by
  cases depth with
  | zero => rfl
  | succ depth =>
    rw [outlineTo]
    split <;> rfl

theorem ids_outline (s : Store) (tree : List NodeId) : (s.outline tree).map Outline.id = tree := by
  rw [outline, List.map_map]
  exact (List.map_congr_left fun x _ => s.id_outlineTo _ x).trans (List.map_id tree)

theorem depicts_outlineTo {tree : List NodeId} (h : s.Acyclic tree) {depth : Nat} {x : NodeId} (hx : s.Shallow depth x)
    (hw : s.Within tree x) : s.Depicts [s.outlineTo depth x] := by
  induction depth generalizing x with
  | zero => exact hx.elim
  | succ depth ih =>
    have hlt := h.lt_size x hw
    rw [outlineTo]
    cases hc : s.content? x with
    | none => exact .node ⟨hlt, rfl, hc⟩ (.nil s)
    | some tree =>
      have hm : (tree.map (s.outlineTo depth)).map Outline.id = tree := by
        rw [List.map_map]
        exact (List.map_congr_left fun y _ => s.id_outlineTo _ y).trans (List.map_id tree)
      refine .node ⟨hlt, rfl, ?_⟩ ?_
      · exact hc.trans (congrArg some hm.symm)
      · intro p hp
        obtain ⟨o, ho, hp⟩ := Outline.mem_partsAll.1 hp
        obtain ⟨y, hy, rfl⟩ := List.mem_map.1 ho
        have hy' : y ∈ s.content x := by rwa [Store.content, hc]
        refine ih (hx y hy') (hw.below (.single hy')) p ?_
        rwa [Outline.partsAll_singleton]

/-- A tree without cycles is what it unfolds to. -/
theorem Acyclic.depicts_outline {tree : List NodeId} (h : s.Acyclic tree) : s.Depicts (s.outline tree) := by
  intro p hp
  obtain ⟨o, ho, hp⟩ := Outline.mem_partsAll.1 hp
  obtain ⟨x, hx, rfl⟩ := List.mem_map.1 ho
  have hw : s.Within tree x := ⟨x, hx, .refl⟩
  refine depicts_outlineTo h (h.shallow hw) hw p ?_
  rwa [Outline.partsAll_singleton]

/-- A sound store depicts what it unfolds to. -/
theorem Sound.depicts_outline (hs : s.Sound) {tree : List NodeId} (hlt : ∀ x ∈ tree, x < s.size) :
    s.Depicts (s.outline tree) :=
  (hs.acyclic_of_lt hlt).depicts_outline

theorem Shallow.height_le {depth : Nat} (h : s.Shallow depth o.id) (ho : s.Depicts [o]) : o.height ≤ depth := by
  induction depth generalizing o with
  | zero => exact h.elim
  | succ depth ih =>
    cases o with
    | leaf id hd => exact Nat.succ_le_succ (Nat.zero_le _)
    | branch id hd content =>
      have hcontent : s.Depicts content := ho.content (Outline.mem_partsAll_of_mem (List.mem_singleton_self _))
      refine Nat.succ_le_succ (Outline.heightAll_le_iff.2 fun p hp => ?_)
      refine ih (h p.id ?_) (hcontent.of_mem (Outline.mem_partsAll_of_mem hp))
      rw [(ho.shows (List.mem_singleton_self _)).content]
      exact List.mem_map_of_mem hp

/-- What a sound store depicts is what it unfolds to. -/
theorem Depicts.outline_eq (h : s.Depicts os) (hs : s.Sound) : s.outline (os.map Outline.id) = os := by
  refine h.outline_eq_of_height (Outline.heightAll_le_iff.2 fun o ho => ?_)
  exact (hs.shallow (h.shows ho).lt_size).height_le (h.of_mem (Outline.mem_partsAll_of_mem ho))

theorem Depicts.document_eq (h : s.Depicts os) (hs : s.Sound) :
    s.document (os.map Outline.id) = Outline.markupAll os := by
  rw [document, h.outline_eq hs]

end Store

end LayoutInheritance
