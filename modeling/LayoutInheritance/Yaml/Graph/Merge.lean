import LayoutInheritance.Yaml.Graph.Basic

/-! Mappings that take over the entries of others. A mapping's own entries come after those that it takes
over, so that they win. -/

namespace LayoutInheritance.Yaml.Graph

def entries (g : Graph) (id : Id) : List Entry :=
  match g.node id with
  | .mapping _ entries => entries
  | _ => []

def setEntries (g : Graph) (id : Id) (entries : List Entry) : Graph :=
  match g.node id with
  | .mapping t _ => g.replace id (.mapping t entries)
  | _ => g

/-- Whether an entry asks for the entries of other mappings. -/
def isMerge (g : Graph) (e : Entry) : Bool :=
  g.tag e.1 == .merge

/-- How many entries of the whole graph ask for others. -/
def mergeCount (g : Graph) : Nat :=
  (List.range g.nodes.size).foldl (fun count id => count + ((g.entries id).filter g.isMerge).length) 0

/-- The key of a default value is a text where it is a key. -/
def withPlainKeys (g : Graph) (entries : List Entry) : Graph :=
  entries.foldl (fun g e => if g.tag e.1 == .default then g.withTag e.1 .text else g) g

/-- Gives a mapping the entries that it asks for, after those in `taken`. Of several mappings that one
entry asks for, the first wins and so comes last. Every step removes an entry that asks; the bound is met
once it exceeds their number. -/
def mergeWithin : (bound : Nat) → Id → (taken : List Entry) → Graph → Except Fault Graph
  | 0, _, _, _ => .error .malformed
  | bound + 1, id, taken, g =>
    let entries := g.entries id
    match entries.find? g.isMerge with
    | none => .ok ((g.setEntries id (taken ++ entries)).withPlainKeys entries)
    | some asking => do
      let g := g.setEntries id (entries.erase asking)
      let asked ← match g.node asking.2 with
        | .mapping .. => pure [asking.2]
        | .sequence _ items => pure items
        | .scalar .. => throw .malformed
      let (g, given) ← asked.foldlM (fun (g, given) other =>
        match g.node other with
        | .mapping .. => do
          let g ← mergeWithin bound other [] g
          return (g, g.entries other :: given)
        | _ => throw Fault.malformed) (g, [])
      mergeWithin bound id (taken ++ given.flatten) g

/-- Gives a mapping all entries that it asks for. -/
def merge (g : Graph) (id : Id) : Except Fault Graph :=
  mergeWithin (g.mergeCount + 1) id [] g

end LayoutInheritance.Yaml.Graph
