import LayoutInheritance.Block.Basic
import LayoutInheritance.Store.Basic

/-! Unwrapping: every block gives way to its content. It is done in place, so a node that stands in
several contents is unwrapped in all of them. -/

namespace LayoutInheritance.Store

/-- Visits nodes from left to right; each gives way to the nodes that `visit` returns for it. -/
def flatVisit (visit : Store → NodeId → Store × List NodeId) (s : Store) : List NodeId → Store × List NodeId
  | [] => (s, [])
  | id :: rest =>
    let (s, here) := visit s id
    let (s, after) := flatVisit visit s rest
    (s, here ++ after)

/-- Unwraps one node, where `within` unwraps a content. -/
def unwrapNode (within : Store → List NodeId → Store × List NodeId) (s : Store) (id : NodeId) :
    Store × List NodeId :=
  let h := s.head id
  let s :=
    if h.isTag && !(s.content id).isEmpty then
      let (s, content) := within s (s.content id)
      s.setContent id content
    else s
  (s, if h.isBlock then s.content id else [id])

/-- Unwraps down to a depth. No branch is longer than the store unless a node lies inside itself. -/
def unwrapTo : (depth : Nat) → Store → List NodeId → Store × List NodeId
  | 0, s, ids => (s, ids)
  | depth + 1, s, ids => flatVisit (unwrapNode (unwrapTo depth)) s ids

def unwrap (s : Store) (tree : List NodeId) : Store × List NodeId :=
  unwrapTo s.size s tree

end LayoutInheritance.Store
