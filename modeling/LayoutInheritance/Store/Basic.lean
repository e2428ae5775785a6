import LayoutInheritance.Markup.Printer

/-! A store of nodes with identities. The head of a node never changes once it is stored; its content can
be set anew, and a node may stand in several contents at once. The outline of a node spells out the tree
below it. -/

namespace LayoutInheritance

abbrev NodeId := Nat

/-- A stored node: its content names other nodes. -/
structure Cell where
  head : Head Markup
  content : Option (List NodeId)
  deriving Inhabited

structure Store where
  cells : Array Cell := #[]
  deriving Inhabited

namespace Store

def size (s : Store) : Nat :=
  s.cells.size

def head (s : Store) (id : NodeId) : Head Markup :=
  (s.cells.getD id default).head

def content? (s : Store) (id : NodeId) : Option (List NodeId) :=
  (s.cells.getD id default).content

/-- The content, where having none counts as having nothing. -/
def content (s : Store) (id : NodeId) : List NodeId :=
  (s.content? id).getD []

def setContent (s : Store) (id : NodeId) (content : List NodeId) : Store :=
  ⟨s.cells.modify id fun cell => { cell with content := some content }⟩

/-- A new node and its identity. -/
def create (s : Store) (head : Head Markup) (content : Option (List NodeId)) : Store × NodeId :=
  (⟨s.cells.push ⟨head, content⟩⟩, s.size)

mutual

/-- Stores a document's node, and all nodes below it, as new nodes. -/
def add (s : Store) : Markup → Store × NodeId
  | .leaf h => s.create h none
  | .branch h content =>
    let (s, ids) := s.addAll content
    s.create h (some ids)

def addAll (s : Store) : List Markup → Store × List NodeId
  | [] => (s, [])
  | node :: rest =>
    let (s, id) := s.add node
    let (s, ids) := s.addAll rest
    (s, id :: ids)

end

end Store

/-- A tree of the store: every node with its identity. -/
inductive Outline where
  | leaf (id : NodeId) (head : Head Markup)
  | branch (id : NodeId) (head : Head Markup) (content : List Outline)
  deriving Inhabited

namespace Outline

def id : Outline → NodeId
  | leaf id _ => id
  | branch id _ _ => id

mutual

/-- The document that the outline shows. -/
def markup : Outline → Markup
  | leaf _ h => .leaf h
  | branch _ h content => .branch h (markupAll content)

def markupAll : List Outline → List Markup
  | [] => []
  | o :: rest => o.markup :: markupAll rest

end

end Outline

namespace Store

/-- The outline down to a depth. No branch is longer than the store unless a node lies inside itself. -/
def outlineTo (s : Store) : (depth : Nat) → NodeId → Outline
  | 0, id => .leaf id (s.head id)
  | depth + 1, id =>
    match s.content? id with
    | none => .leaf id (s.head id)
    | some ids => .branch id (s.head id) (ids.map (outlineTo s depth))

def outline (s : Store) (ids : List NodeId) : List Outline :=
  ids.map (s.outlineTo s.size)

/-- The document that starts with the nodes `ids`. -/
def document (s : Store) (ids : List NodeId) : List Markup :=
  Outline.markupAll (s.outline ids)

end Store

end LayoutInheritance
