import LayoutInheritance.Proofs.Markup.Location
import LayoutInheritance.Proofs.Store.Graph
import Mathlib.Data.List.GetD

/-! The heads of a store, in the order in which its nodes were made. A document adds the heads of its nodes, what lies
in a node before the node itself, and nothing else adds any: contents may change, but heads stay. -/

namespace LayoutInheritance

namespace Markup

open List (Perm)

mutual

/-- The heads of a node and of all nodes below it, what lies in a node before the node itself. -/
def postorder : Markup → List (Head Markup)
  | leaf h => [h]
  | branch h content => postorderAll content ++ [h]

def postorderAll : List Markup → List (Head Markup)
  | [] => []
  | m :: rest => m.postorder ++ postorderAll rest

end

mutual

theorem postorder_perm : ∀ m : Markup, m.postorder.Perm (headsAll [m])
  | leaf _ => .refl _
  | branch h content => by
    rw [postorder, headsAll_branch]
    exact (List.perm_append_singleton h _).trans ((postorderAll_perm content).cons h)

/-- It is another order of the same nodes. -/
theorem postorderAll_perm : ∀ ms : List Markup, (postorderAll ms).Perm (headsAll ms)
  | [] => .refl _
  | m :: rest => by
    rw [postorderAll, show m :: rest = [m] ++ rest from rfl, headsAll_append]
    exact (postorder_perm m).append (postorderAll_perm rest)

end

theorem mem_postorderAll {h : Head Markup} {ms : List Markup} :
    h ∈ postorderAll ms ↔ ∃ m ∈ nodesAll ms, m.head = h := by
  rw [(postorderAll_perm ms).mem_iff, headsAll, List.mem_map]

end Markup

namespace Store

variable {s s' : Store} {x : NodeId}

/-- The heads of all nodes, the oldest first. -/
def heads (s : Store) : List (Head Markup) :=
  s.cells.toList.map Cell.head

theorem length_heads (s : Store) : s.heads.length = s.size := by
  simp [heads, size]

theorem head_eq_getD_heads (s : Store) (x : NodeId) : s.head x = s.heads.getD x default := by
  rw [head_eq, heads, List.getD_eq_getElem?_getD, List.getElem?_map, Array.getElem?_toList]
  cases s.cells[x]? <;> rfl

theorem head_mem_heads (h : x < s.size) : s.head x ∈ s.heads := by
  rw [← length_heads] at h
  rw [head_eq_getD_heads, List.getD_eq_getElem _ _ h]
  exact List.getElem_mem h

/-- Beyond the store there are no tags with names. -/
theorem head_mem_heads_of_isTagNamed {name : String} (h : (s.head x).isTagNamed name) : s.head x ∈ s.heads := by
  refine head_mem_heads (not_le.1 fun hx => ?_)
  rw [← length_heads] at hx
  rw [head_eq_getD_heads, List.getD_eq_default _ _ hx] at h
  exact nomatch h

theorem heads_congr (hs : s'.size = s.size) (hh : ∀ x, s'.head x = s.head x) : s'.heads = s.heads := by
  refine List.ext_getElem ((length_heads _).trans (hs.trans (length_heads _).symm)) fun x hx hx' => ?_
  have hhead := hh x
  rwa [head_eq_getD_heads, head_eq_getD_heads, List.getD_eq_getElem _ _ hx, List.getD_eq_getElem _ _ hx'] at hhead

theorem head_eq_of_heads (h : s'.heads = s.heads) (x : NodeId) : s'.head x = s.head x := by
  rw [head_eq_getD_heads, h, head_eq_getD_heads]

@[simp] theorem heads_setContent (s : Store) (id : NodeId) (content : List NodeId) :
    (s.setContent id content).heads = s.heads :=
  heads_congr (size_setContent ..) (head_setContent s id content)

theorem heads_create (s : Store) (h : Head Markup) (content : Option (List NodeId)) :
    (s.create h content).1.heads = s.heads ++ [h] := by
  simp [heads, create]

mutual

theorem heads_add (s : Store) : ∀ m : Markup, (s.add m).1.heads = s.heads ++ m.postorder
  | .leaf h => heads_create s h none
  | .branch h content => by
    rw [add, Markup.postorder, ← List.append_assoc, ← heads_addAll s content]
    exact heads_create ..

/-- Storing a document adds the heads of its nodes. -/
theorem heads_addAll (s : Store) : ∀ ms : List Markup, (s.addAll ms).1.heads = s.heads ++ Markup.postorderAll ms
  | [] => (List.append_nil _).symm
  | m :: rest => by
    rw [addAll, Markup.postorderAll, ← List.append_assoc, ← heads_add s m]
    exact heads_addAll (s.add m).1 rest

end

end Store

end LayoutInheritance
