import LayoutInheritance.Block.Collect
import LayoutInheritance.Issue

/-! A template fills the blocks of a layout. Each block of the layout that the template names takes the
template's nodes into its content, in place; a block of the template that the layout lacks is an issue,
found when all the others have been filled. -/

namespace LayoutInheritance

/-- What filling the blocks of a layout leaves: the store, the names filled with the type of each, and
the template's blocks that no name has asked for yet. -/
structure Filling where
  store : Store
  filled : List (String × BlockType) := []
  unclaimed : BlockTable

namespace Filling

/-- Fills one block of the layout if the template has a block of its name. -/
def fill (f : Filling) (name : String) (block : NodeId) : Filling :=
  match f.unclaimed.get? name with
  | none => f
  | some source =>
    let type := BlockType.ofHead (f.store.head source)
    { store := f.store.setContent block
        (type.combine (f.store.content source) (f.store.content block))
      filled := f.filled ++ [(name, type)]
      unclaimed := f.unclaimed.remove name }

def fillAll (f : Filling) (blocks : BlockTable) : Filling :=
  blocks.foldl (fun f block => f.fill block.1 block.2) f

end Filling

/-- The store after a merge, what was filled, and the issue that stopped it, if any. -/
structure Merge where
  store : Store
  filled : List (String × BlockType) := []
  issue? : Option Issue := none

def Store.merge (s : Store) (layout template : List NodeId) : Merge :=
  match s.blocks layout, s.blocks template with
  | .error l, _ => { store := s, issue? := some (.missingBlockName (some l)) }
  | .ok _, .error l => { store := s, issue? := some (.missingBlockName (some l)) }
  | .ok blocks, .ok overrides =>
    let f := Filling.fillAll { store := s, unclaimed := overrides } blocks
    { store := f.store
      filled := f.filled
      issue? := f.unclaimed.head?.map fun left =>
        .unmatchedBlock left.1 (some (f.store.head left.2).location) }

end LayoutInheritance
