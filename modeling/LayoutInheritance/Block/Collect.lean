import LayoutInheritance.Block.Basic
import LayoutInheritance.Store.Basic

/-! The blocks of a tree by name. The blocks inside a tag come before the tag itself; a name that comes
again keeps its place and stands for its last block. -/

namespace LayoutInheritance

/-- Blocks by name. -/
abbrev BlockTable := Dictionary String NodeId

namespace Outline

/-- Enters a node when it is a block. A block without a name is refused with its place. -/
def enter (found : BlockTable) (id : NodeId) (h : Head Markup) : Except Location BlockTable :=
  if h.isBlock then
    match h.attribute? "name" with
    | some name => .ok (found.put name id)
    | none => .error h.location
  else .ok found

mutual

/-- The blocks of one node, put into those found before it. -/
def collectInto (found : BlockTable) : Outline → Except Location BlockTable
  | leaf id h => enter found id h
  | branch id h content =>
    if h.isTag then
      match collectAll [] content with
      | .ok inner => enter (found.update inner) id h
      | .error l => .error l
    else enter found id h

def collectAll (found : BlockTable) : List Outline → Except Location BlockTable
  | [] => .ok found
  | o :: rest =>
    match o.collectInto found with
    | .ok found => collectAll found rest
    | .error l => .error l

end

def collect (tree : List Outline) : Except Location BlockTable :=
  collectAll [] tree

end Outline

/-- The blocks of a tree of the store. -/
def Store.blocks (s : Store) (tree : List NodeId) : Except Location BlockTable :=
  Outline.collect (s.outline tree)

end LayoutInheritance
