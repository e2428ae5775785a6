import LayoutInheritance.Text.Base64
import LayoutInheritance.Yaml.Graph.Draft
import LayoutInheritance.Yaml.Graph.Merge
import LayoutInheritance.Yaml.Value

/-! The document of a YAML text: what the nodes of its graph mean. A scalar is read when it is first met. A
collection is only numbered then, and filled when its turn comes, in the order of the numbers, so that every
node has one value wherever it stands. -/

namespace LayoutInheritance.Yaml

namespace Graph

/-! ### Scalars -/

def truths : List (String × Bool) :=
  [("yes", true), ("no", false), ("true", true), ("false", false), ("on", true), ("off", false)]

/-- The truth value of a word. The case of letters does not count. -/
def truth (text : String) : Except Fault Bool :=
  let word := Text.lower text
  match truths.lookup word with
  | some b => .ok b
  | none => .error (.notTruth word)

/-- A timestamp that the calendar has. -/
def timestamp (text : String) : Except Fault Timestamp :=
  match Timestamp.ofText? text with
  | none => .error .notTimestamp
  | some t =>
    match t.fault? with
    | some fault => .error (.calendar fault)
    | none => .ok t

def isScalar (g : Graph) (id : Id) : Bool :=
  match g.node id with
  | .scalar .. => true
  | _ => false

/-- The value that a node has as a scalar. No value belongs to a key with a meaning of its own, nor to a
tag that is unknown. -/
def scalar (g : Graph) (id : Id) : Except Fault Value := do
  match g.tag id with
  | .null =>
    let _ ← g.text id
    return .null
  | .bool => return .bool (← truth (← g.text id))
  | .int => return .int (← (Number.wholeOfText (← g.text id)).mapError .number)
  | .float =>
    match ← (Number.decimalOfText (← g.text id)).mapError .number with
    | some x => return Value.ofFloat id x
    | none => return .notANumber none
  | .text => return .text (← g.text id)
  | .timestamp =>
    let text ← g.text id
    if !g.isScalar id then throw .timestampInMapping
    return .timestamp (← timestamp text)
  | .binary => return .bytes (← orMalformed (Text.base64? (← g.text id).toList))
  | _ => throw .malformed

end Graph

/-- A document in the making. -/
structure Document.Draft where
  graph : Graph
  /-- The values of the nodes that have been met. -/
  values : List (Graph.Id × Value) := []
  /-- The collections by their numbers, and the nodes that they belong to. -/
  collections : Array Collection := #[]
  nodes : Array Graph.Id := #[]

namespace Document.Draft

/-- A step in the making of a document. -/
abbrev Step (α : Type) := StateT Draft (Except Fault) α

/-- An empty collection of the kind that a tag asks for. -/
def empty? : Tag → Option Collection
  | .sequence => some (.list [])
  | .mapping => some (.map [])
  | .set => some (.set [])
  | .orderedMap | .pairs => some (.pairs [])
  | _ => none

/-- The value of a node. -/
def value (id : Graph.Id) : Step Value := do
  let d ← get
  match d.values.lookup id with
  | some v => return v
  | none =>
    match empty? (d.graph.tag id) with
    | some c =>
      let v := Value.collection d.collections.size
      set { d with
        values := (id, v) :: d.values
        collections := d.collections.push c
        nodes := d.nodes.push id }
      return v
    | none =>
      let v ← d.graph.scalar id
      set { d with values := (id, v) :: d.values }
      return v

/-! ### Collections -/

def items (id : Graph.Id) : Step (List Value) := do
  match (← get).graph.node id with
  | .sequence _ items => items.mapM value
  | _ => throw .malformed

/-- The entries of a mapping with those that it takes over. Of two equal keys the later one wins. -/
def entries (id : Graph.Id) : Step (Dictionary Value Value) := do
  match (← get).graph.node id with
  | .mapping .. =>
    let graph ← (← get).graph.merge id
    modify fun d => { d with graph }
    (graph.entries id).foldlM (fun done e => do
      let k ← value e.1
      if k.key?.isNone then throw .malformed
      return done.put k (← value e.2)) []
  | _ => throw .malformed

/-- The only pair of each mapping in a sequence. -/
def pairs (id : Graph.Id) : Step (List (Value × Value)) := do
  match (← get).graph.node id with
  | .sequence _ items =>
    items.mapM fun item => do
      match (← get).graph.node item with
      | .mapping _ [(k, v)] => return (← value k, ← value v)
      | _ => throw .malformed
  | _ => throw .malformed

/-- What belongs into a collection, by its node. -/
def filled (c : Collection) (id : Graph.Id) : Step Collection := do
  match c with
  | .list _ => return .list (← items id)
  | .map _ => return .map (← entries id)
  | .set _ => return .ofMembers ((← entries id).map Prod.fst)
  | .pairs _ => return .pairs (← pairs id)

/-- Fills the collections from a number on. No more of them turn up than there are nodes, which is when the
bound is met. -/
def fillFrom : (bound : Nat) → (number : Nat) → Step Unit
  | 0, _ => return
  | bound + 1, number => do
    let d ← get
    match d.collections[number]?, d.nodes[number]? with
    | some c, some id =>
      let c ← filled c id
      modify fun d => { d with collections := d.collections.setIfInBounds number c }
      fillFrom bound (number + 1)
    | _, _ => return

end Document.Draft

namespace Document

/-- The document of a graph, from its outermost node on. -/
def ofGraph (root : Graph.Id) (g : Graph) : Except Fault Document := do
  let make : Draft.Step Value := do
    let v ← Draft.value root
    Draft.fillFrom g.nodes.size 0
    return v
  let (root, d) ← make.run { graph := g }
  return { root, collections := d.collections }

/-- The only document of a text. -/
def ofText (text : String) : Except Fault Document := do
  match ← Graph.ofTokens? (Tokens.ofChars text.toList) with
  | (some root, g) => ofGraph root g
  | (none, _) => return {}

end Document

end LayoutInheritance.Yaml
