import LayoutInheritance.Proofs.Block.Unwrap
import LayoutInheritance.Proofs.Block.Collect
import LayoutInheritance.Proofs.Store.Shared

/-! Unwrapping against the unfolded tree. What the store unfolds to after its blocks have been unwrapped in place is
what the unfolding of before gives way to, place by place, though a node that stands in several places has been
rewritten by the first visit and is visited again. No place is lost but those of blocks: the others keep their order
and what they stand in, and the document is printed as before, without the tags of blocks. -/

namespace LayoutInheritance

/-! ### Printed pieces -/

/-- A tag is printed as its start tag, its content and its end tag, any other node as one text. Each piece comes with
the head that it belongs to. -/
def Head.pieces (h : Head Markup) (empty : Bool) (inner : List (Head Markup × String)) : List (Head Markup × String) :=
  if h.isTag then
    if h.isVoid && empty then [(h, h.startTag)] else (h, h.startTag) :: (inner ++ [(h, h.endTag)])
  else [(h, h.render true "")]

namespace Markup

mutual

def pieces : Markup → List (Head Markup × String)
  | leaf h => h.pieces true []
  | branch h content => h.pieces content.isEmpty (piecesAll content)

def piecesAll : List Markup → List (Head Markup × String)
  | [] => []
  | m :: rest => m.pieces ++ piecesAll rest

end

/-- The pieces that do not belong to blocks. -/
def unblocked (ps : List (Head Markup × String)) : List (Head Markup × String) :=
  ps.filter fun p => !p.1.isBlock

/-- The text of pieces. -/
def joined (ps : List (Head Markup × String)) : String :=
  String.join (ps.map Prod.snd)

theorem joined_append (ps qs : List (Head Markup × String)) : joined (ps ++ qs) = joined ps ++ joined qs := by
  simp [joined]

theorem render_eq_joined_pieces (h : Head Markup) (empty : Bool) (inner : List (Head Markup × String)) :
    h.render empty (joined inner) = joined (h.pieces empty inner) := by
  unfold Head.pieces Head.render Head.isTag
  cases h.kind with
  | tag =>
    cases h.isVoid && empty <;> simp [joined, String.append_assoc]
  | _ => simp [joined]

mutual

theorem render_eq_joined : ∀ m : Markup, m.render = joined m.pieces
  | leaf h => render_eq_joined_pieces h true []
  | branch h content => by
    rw [render, renderAll_eq_joined content, render_eq_joined_pieces, pieces]

/-- A document is printed piece by piece. -/
theorem renderAll_eq_joined : ∀ ms : List Markup, renderAll ms = joined (piecesAll ms)
  | [] => rfl
  | m :: rest => by
    rw [renderAll, render_eq_joined m, renderAll_eq_joined rest, piecesAll, joined_append]

end

theorem Head.isVoid_of_isBlock {h : Head Markup} (hb : h.isBlock) : h.isVoid = false := by
  rw [Head.isBlock, Head.isTagNamed, Bool.and_eq_true] at hb
  rw [Head.isVoid, eq_of_beq hb.2]
  decide

theorem unblocked_pieces_of_block {h : Head Markup} (hb : h.isBlock) (empty : Bool)
    (inner : List (Head Markup × String)) : unblocked (h.pieces empty inner) = unblocked inner := by
  simp [Head.pieces, Head.isTag_of_isBlock hb, Head.isVoid_of_isBlock hb, unblocked, hb]

theorem unblocked_pieces {h : Head Markup} (hb : h.isBlock = false) {empty empty' : Bool}
    (he : h.isTag → h.isVoid → empty = empty') (inner : List (Head Markup × String)) :
    unblocked (h.pieces empty inner) = h.pieces empty' (unblocked inner) := by
  unfold Head.pieces unblocked
  cases ht : h.isTag with
  | false => simp [hb]
  | true =>
    cases hv : h.isVoid with
    | false => simp [hb]
    | true => cases empty' <;> simp [he ht hv, hb]

theorem piecesAll_append (as bs : List Markup) : piecesAll (as ++ bs) = piecesAll as ++ piecesAll bs := by
  induction as with
  | nil => rfl
  | cons m as ih => simp [piecesAll, ih]

end Markup

namespace Outline

mutual

/-- What an outline gives way to when blocks are unwrapped: a block gives way to what its content gives
way to. -/
def unwrapped : Outline → List Outline
  | leaf id h => if h.isBlock then [] else [leaf id h]
  | branch id h content => if h.isBlock then unwrappedAll content else [branch id h (unwrappedAll content)]

def unwrappedAll : List Outline → List Outline
  | [] => []
  | o :: rest => o.unwrapped ++ unwrappedAll rest

end

theorem unwrapped_eq (o : Outline) : o.unwrapped.map id = if o.head.isBlock then (unwrappedAll o.content).map id
    else [o.id] := by
  cases o with
  | leaf id h =>
    rw [unwrapped]
    split <;> simp_all [head, content, content?, unwrappedAll, Outline.id]
  | branch id h content =>
    rw [unwrapped]
    split <;> simp_all [head, Outline.content, content?, Outline.id]

mutual

theorem ids_unwrapped_sublist : ∀ o : Outline, (ids o.unwrapped).Sublist (ids [o])
  | leaf id h => by
    rw [unwrapped]
    split
    · exact List.nil_sublist _
    · exact .refl _
  | branch id h content => by
    have inner := ids_unwrappedAll_sublist content
    rw [unwrapped, ids_singleton]
    split
    · exact inner.cons _
    · rw [ids_singleton]
      exact inner.cons_cons _

/-- Unwrapping keeps places in their order and makes no new ones. -/
theorem ids_unwrappedAll_sublist : ∀ os : List Outline, (ids (unwrappedAll os)).Sublist (ids os)
  | [] => .refl _
  | o :: os => by
    rw [unwrappedAll, ids_append, show o :: os = [o] ++ os from rfl, ids_append]
    exact (ids_unwrapped_sublist o).append (ids_unwrappedAll_sublist os)

end

/-- The place `p` in what is unwrapped is the place `q` of before. -/
structure Remains (q p : Outline) : Prop where
  id : q.id = p.id
  head : q.head = p.head
  isBlock : q.head.isBlock = false
  content? : p.content? = q.content?.map unwrappedAll

mutual

theorem remains_of_mem_unwrapped {p : Outline} : ∀ {o : Outline}, p ∈ partsAll o.unwrapped →
    ∃ q ∈ o.parts, Remains q p
  | leaf id h, hp => by
    rw [unwrapped] at hp
    split at hp
    · exact nomatch hp
    · next hb =>
      obtain rfl : p = leaf id h := by simpa [partsAll, parts] using hp
      exact ⟨_, mem_parts_self _, rfl, rfl, Bool.eq_false_iff.2 hb, rfl⟩
  | branch id h content, hp => by
    rw [parts]
    rw [unwrapped] at hp
    split at hp
    · obtain ⟨q, hq, hr⟩ := remains_of_mem hp
      exact ⟨q, List.mem_cons_of_mem _ hq, hr⟩
    · next hb =>
      rw [partsAll, partsAll, List.append_nil, parts, List.mem_cons] at hp
      rcases hp with rfl | hp
      · exact ⟨_, List.mem_cons_self .., rfl, rfl, Bool.eq_false_iff.2 hb, rfl⟩
      · obtain ⟨q, hq, hr⟩ := remains_of_mem hp
        exact ⟨q, List.mem_cons_of_mem _ hq, hr⟩

theorem remains_of_mem {p : Outline} : ∀ {os : List Outline}, p ∈ partsAll (unwrappedAll os) →
    ∃ q ∈ partsAll os, Remains q p
  | [], hp => nomatch hp
  | o :: os, hp => by
    rw [unwrappedAll, partsAll_append, List.mem_append] at hp
    rw [partsAll]
    rcases hp with hp | hp
    · obtain ⟨q, hq, hr⟩ := remains_of_mem_unwrapped hp
      exact ⟨q, List.mem_append_left _ hq, hr⟩
    · obtain ⟨q, hq, hr⟩ := remains_of_mem hp
      exact ⟨q, List.mem_append_right _ hq, hr⟩

end

/-! ### Places that stand -/

mutual

/-- The nodes at the places that are no blocks, in document order, each with the nodes that it stands in and that
are no blocks, the nearest first. -/
def standing (above : List NodeId) : Outline → List (NodeId × List NodeId)
  | leaf id h => if h.isBlock then [] else [(id, above)]
  | branch id h content =>
    if h.isBlock then standingAll above content else (id, above) :: standingAll (id :: above) content

def standingAll (above : List NodeId) : List Outline → List (NodeId × List NodeId)
  | [] => []
  | o :: rest => o.standing above ++ standingAll above rest

end

theorem standingAll_append (above : List NodeId) (as bs : List Outline) :
    standingAll above (as ++ bs) = standingAll above as ++ standingAll above bs := by
  induction as with
  | nil => rfl
  | cons o as ih => simp [standingAll, ih]

mutual

theorem standingAll_unwrapped (above : List NodeId) : ∀ o : Outline,
    standingAll above o.unwrapped = o.standing above
  | leaf id h => by
    rw [unwrapped, standing]
    split <;> simp_all [standingAll, standing]
  | branch id h content => by
    rw [unwrapped, standing]
    split
    · exact standingAll_unwrappedAll above content
    · next hb => simp [standingAll, standing, hb, standingAll_unwrappedAll (id :: above) content]

/-- What is no block keeps its place in the document, and the places that it stands in. -/
theorem standingAll_unwrappedAll (above : List NodeId) : ∀ os : List Outline,
    standingAll above (unwrappedAll os) = standingAll above os
  | [] => rfl
  | o :: os => by
    rw [unwrappedAll, standingAll_append, standingAll_unwrapped above o, standingAll_unwrappedAll above os, standingAll]

end

/-! ### Printing what stands -/

section

open Markup (piecesAll unblocked)

mutual

theorem piecesAll_unwrapped : ∀ {o : Outline}, (∀ p ∈ o.parts, p.head.isTag → p.head.isVoid → p.content = []) →
    piecesAll (markupAll o.unwrapped) = unblocked o.markup.pieces
  | leaf id h, _ => by
    rw [unwrapped, markup, Markup.pieces]
    split
    · next hb => rw [Markup.unblocked_pieces_of_block hb]; rfl
    · next hb =>
      rw [Markup.unblocked_pieces (Bool.eq_false_iff.2 hb) fun _ _ => rfl]
      simp [markupAll, markup, piecesAll, Markup.pieces, unblocked]
  | branch id h content, hv => by
    have inner := piecesAll_unwrappedAll fun p hp => hv p (List.mem_cons_of_mem _ hp)
    rw [unwrapped, markup, Markup.pieces]
    split
    · next hb => rw [Markup.unblocked_pieces_of_block hb, inner]
    · next hb =>
      have he : h.isTag → h.isVoid → (markupAll content).isEmpty = (markupAll (unwrappedAll content)).isEmpty := by
        intro ht hvoid
        have hc : content = [] := hv _ (mem_parts_self _) ht hvoid
        rw [hc]
        rfl
      rw [Markup.unblocked_pieces (Bool.eq_false_iff.2 hb) he, ← inner]
      simp [markupAll, markup, piecesAll, Markup.pieces]

/-- Void tags apart, which have no content to give way, unwrapping leaves out the tags of blocks alone. -/
theorem piecesAll_unwrappedAll : ∀ {os : List Outline},
    (∀ p ∈ partsAll os, p.head.isTag → p.head.isVoid → p.content = []) →
      piecesAll (markupAll (unwrappedAll os)) = unblocked (piecesAll (markupAll os))
  | [], _ => rfl
  | o :: os, hv => by
    have ho := piecesAll_unwrapped fun p hp => hv p (List.mem_append_left _ hp)
    have hos := piecesAll_unwrappedAll fun p hp => hv p (List.mem_append_right _ hp)
    rw [unwrappedAll, markupAll_append, Markup.piecesAll_append, ho, hos, markupAll, piecesAll, unblocked, unblocked,
      unblocked, List.filter_append]

end

end

end Outline

namespace Store

open Outline (ids partsAll unwrappedAll)

variable {s s' : Store} {os : List Outline} {tree : List NodeId}

mutual

theorem Depicts.gives (h : s.Sound) : ∀ {o : Outline}, s.Depicts [o] → h.gives o.id = o.unwrapped.map Outline.id
  | .leaf id hd, ho => by
    have hr := ho.shows (List.mem_singleton_self _)
    rw [h.gives_eq, hr.head, hr.content, Outline.unwrapped_eq]
    rfl
  | .branch id hd content, ho => by
    have hr := ho.shows (List.mem_singleton_self _)
    rw [h.gives_eq, hr.head, hr.content, Outline.unwrapped_eq]
    rw [Depicts.flatMap_gives h (ho.content (Outline.mem_partsAll_of_mem (List.mem_singleton_self _)))]

/-- Depicted nodes give way to what their outlines give way to. -/
theorem Depicts.flatMap_gives (h : s.Sound) : ∀ {os : List Outline}, s.Depicts os →
    (os.map Outline.id).flatMap h.gives = (unwrappedAll os).map Outline.id
  | [], _ => rfl
  | o :: os, ho => by
    rw [List.map_cons, List.flatMap_cons, Depicts.gives h (Depicts.left (a := [o]) ho),
      Depicts.flatMap_gives h (Depicts.right (a := [o]) ho), unwrappedAll, List.map_append]

end

/-- Unwrapping in place unwraps what is depicted. -/
theorem Sound.Unwraps.depicts {h : s.Sound} {found : List NodeId}
    (hu : h.Unwraps s (os.map Outline.id) s' found) (ho : s.Depicts os) :
    found = (unwrappedAll os).map Outline.id ∧ s'.Depicts (unwrappedAll os) := by
  refine ⟨hu.found.trans (ho.flatMap_gives h), fun p hp => ?_⟩
  obtain ⟨q, hq, hr⟩ := Outline.remains_of_mem hp
  have hshows := ho q hq
  have hwithin : s.Within (os.map Outline.id) q.id := by
    rw [← ho.outline_eq h] at hq
    exact (mem_outline hq).1
  constructor
  · rw [← hr.id, hu.partly.size]
    exact hshows.lt_size
  · rw [← hr.id, ← hr.head, hu.partly.head]
    exact hshows.head
  · have hdone := hu.done q.id hwithin (hshows.head ▸ hr.isBlock)
    rw [← hr.id, hdone, Sound.unwrapped?, hshows.content?, hr.content?]
    cases hc : q.content? with
    | none => rfl
    | some content =>
      have hcontent : s.Depicts content := by
        have depicted := ho.content hq
        rwa [Outline.content, hc] at depicted
      exact congrArg some (hcontent.flatMap_gives h)

/-- Unwrapping in place a tree of a store without cycles, in which nodes may stand in several places, gives what the
unfolded tree gives way to. No block is left at any depth. The nodes that are no blocks stand in the same order, each
in the same nodes around it. The document is printed as before without the start and end tags of blocks, if void tags
have no content. And unwrapping once more changes nothing. -/
theorem unwrap_flattens (hs : s.Sound) (hlt : ∀ x ∈ tree, x < s.size)
    (hv : ∀ x, s.Within tree x → (s.head x).isTag → (s.head x).isVoid → s.content x = []) :
    let s' := (s.unwrap tree).1
    let found := (s.unwrap tree).2
    s'.outline found = unwrappedAll (s.outline tree) ∧
    (∀ x, s'.Within found x → (s'.head x).isBlock = false) ∧
    Outline.standingAll [] (s'.outline found) = Outline.standingAll [] (s.outline tree) ∧
    (Markup.renderAll (s.document tree) = Markup.joined (Markup.piecesAll (s.document tree)) ∧
      Markup.renderAll (s'.document found) =
        Markup.joined (Markup.unblocked (Markup.piecesAll (s.document tree)))) ∧
    s'.unwrap found = (s', found) := by
  intro s' found
  have hu : hs.Unwraps s tree s' found := Sound.unwraps_unwrap hs hlt
  have hd := hs.depicts_outline hlt
  rw [← ids_outline s tree] at hu
  obtain ⟨hfound, hdepicts⟩ := hu.depicts hd
  have houtline : s'.outline found = unwrappedAll (s.outline tree) := by
    rw [hfound, hdepicts.outline_eq hu.partly.sound]
  have hvoid : ∀ p ∈ partsAll (s.outline tree), p.head.isTag → p.head.isVoid → p.content = [] := by
    intro p hp ht hvp
    have hc := (hd p hp).content
    have hw := mem_outline hp
    rw [hv p.id hw.1 (hw.2 ▸ ht) (hw.2 ▸ hvp)] at hc
    exact List.map_eq_nil_iff.1 hc.symm
  refine ⟨houtline, ?_, ?_, ⟨Markup.renderAll_eq_joined _, ?_⟩, unwrapTo_of_free hu.free⟩
  · exact fun x hx => (Free.within hu.free hx).self
  · rw [houtline, Outline.standingAll_unwrappedAll]
  · rw [Markup.renderAll_eq_joined, document, houtline, Outline.piecesAll_unwrappedAll hvoid, document]

/-- The block at node 1 stands twice in the paragraph at node 2 and once beside it, the paragraph in the block around
them and after it. -/
theorem unwrap_flattens_shared :
    let s : Store := ⟨#[⟨(Markup.text "x").head, none⟩, ⟨(Markup.tag blockTag).head, some [0]⟩,
      ⟨(Markup.tag "p").head, some [1, 1]⟩, ⟨(Markup.tag blockTag).head, some [2, 1]⟩]⟩
    s.Sound ∧ (∀ x ∈ [3, 2], x < s.size) ∧
    (∀ x, s.Within [3, 2] x → (s.head x).isTag → (s.head x).isVoid → s.content x = []) ∧
    (s.unwrap [3, 2]).2 = [2, 0, 2] ∧
    Outline.standingAll [] ((s.unwrap [3, 2]).1.outline [2, 0, 2]) =
      [(2, []), (0, [2]), (0, [2]), (0, []), (2, []), (0, [2]), (0, [2])] ∧
    Markup.renderAll ((s.unwrap [3, 2]).1.document [2, 0, 2]) = "<p>xx</p>x<p>xx</p>" := by
  intro s
  have hs : s.Sound := sound_of_older (by decide +kernel)
  have hlt : ∀ x ∈ [3, 2], x < s.size := by decide
  have hv : ∀ x, s.Within [3, 2] x → (s.head x).isTag → (s.head x).isVoid → s.content x = [] := by
    have hall : ∀ x < s.size, (s.head x).isTag → (s.head x).isVoid → s.content x = [] := by decide +kernel
    exact fun x hx => hall x ((hs.acyclic_of_lt hlt).lt_size x hx)
  have hfound : (s.unwrap [3, 2]).2 = [2, 0, 2] := by decide +kernel
  obtain ⟨-, -, hstanding, ⟨-, hrender⟩, -⟩ := unwrap_flattens hs hlt hv
  rw [hfound] at hstanding hrender
  exact ⟨hs, hlt, hv, hfound, hstanding.trans (by decide +kernel), hrender.trans (by decide +kernel)⟩

end Store

end LayoutInheritance
