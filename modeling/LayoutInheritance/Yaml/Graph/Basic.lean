import LayoutInheritance.Yaml.Fault
import LayoutInheritance.Yaml.Tag

/-! The nodes of a YAML document as a graph. An alias is the node that its anchor stands at, so a node may
have several places, and a collection may stand in itself. -/

namespace LayoutInheritance.Yaml

/-- The number of a node in its graph. -/
abbrev Graph.Id := Nat

/-- The key and the value of a mapping's entry. -/
abbrev Graph.Entry := Graph.Id × Graph.Id

/-- A node with its tag, written or by its form, and its parts. -/
inductive Node where
  | scalar (tag : Tag) (text : String)
  | sequence (tag : Tag) (items : List Graph.Id)
  | mapping (tag : Tag) (entries : List Graph.Entry)

namespace Node

def tag : Node → Tag
  | scalar t _ | sequence t _ | mapping t _ => t

def withTag (t : Tag) : Node → Node
  | scalar _ s => scalar t s
  | sequence _ items => sequence t items
  | mapping _ entries => mapping t entries

/-- An empty place counts as null. -/
def empty : Node :=
  scalar .null ""

end Node

structure Graph where
  nodes : Array Node := #[]

namespace Graph

def node (g : Graph) (id : Id) : Node :=
  g.nodes[id]?.getD .empty

def tag (g : Graph) (id : Id) : Tag :=
  (g.node id).tag

def add (g : Graph) (n : Node) : Id × Graph :=
  (g.nodes.size, ⟨g.nodes.push n⟩)

def replace (g : Graph) (id : Id) (n : Node) : Graph :=
  ⟨g.nodes.setIfInBounds id n⟩

def withTag (g : Graph) (id : Id) (t : Tag) : Graph :=
  g.replace id ((g.node id).withTag t)

/-! ### Scalars -/

/-- The text of a scalar. A mapping stands for its default value. -/
def textWithin (g : Graph) : (bound : Nat) → Id → Except Fault String
  | 0, _ => .error .malformed
  | bound + 1, id =>
    match g.node id with
    | .scalar _ s => .ok s
    | .sequence .. => .error .malformed
    | .mapping _ entries =>
      match entries.find? fun e => g.tag e.1 == .default with
      | some e => textWithin g bound e.2
      | none => .error .malformed

/-- A default value lies in another mapping each time, unless the mappings go round in a circle. -/
def text (g : Graph) (id : Id) : Except Fault String :=
  g.textWithin (g.nodes.size + 1) id

end Graph

end LayoutInheritance.Yaml
