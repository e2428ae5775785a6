import LayoutInheritance.Block.Unwrap
import LayoutInheritance.Inheritance.Run
import LayoutInheritance.Options.Basic

/-! Resolution of inheritance. An element that extends a layout gives way to the nodes of that layout,
once the layout's own inheritance is resolved and its blocks are filled from the element's content. A
layout that is already in progress may not be extended again, so a chain of layouts is never longer than
the library. -/

namespace LayoutInheritance

def extendsTag : String := "extends"

/-- Where the texts of layouts come from. Only finitely many paths can be read. -/
structure Library where
  /-- The text at a path, in an encoding. -/
  read : (path encoding : String) → Except FileFault String
  /-- The paths that can be read. -/
  paths : List String
  mem_paths : ∀ path encoding text, read path encoding = .ok text → path ∈ paths

/-- A library of texts by path; every other path is missing. -/
def Library.ofTexts (texts : Dictionary String String) : Library where
  read path _ := match texts.get? path with
    | some text => .ok text
    | none => .error (.textMissing path)
  paths := texts.map Prod.fst
  mem_paths path encoding text h := by
    cases hg : texts.get? path with
    | none => simp [hg] at h
    | some t =>
      obtain ⟨l₁, l₂, hl, _⟩ := List.lookup_eq_some_iff.1 hg
      simp [hl]

/-- What stays the same while documents are resolved. -/
structure Resolver where
  library : Library
  /-- The working directory. -/
  cwd : Path
  root : Path
  encoding : String
  /-- Whether dependencies are recorded. -/
  tracking : Bool := true

namespace Resolver

/-- The path of the layout that a source names. -/
def layoutPath (c : Resolver) (source : String) : String :=
  (c.cwd.absolute (c.root.join (Path.ofString source))).text

/-- The nodes of a layout whose inheritance is resolved by `resolve`. -/
def loadLayout (c : Resolver) (document : Option String) (path : String)
    (resolve : List NodeId → Step (List NodeId)) : Step (List NodeId) := do
  Step.note (.loading path c.encoding document)
  match c.library.read path c.encoding with
  | .error fault => throw (.file fault)
  | .ok text =>
    let tree ← Step.parse text (some path)
    Step.within path (resolve tree)

/-- The nodes that an extending element gives way to. The layout is resolved first, by `inherit`, then the
element's own content, by `resolve`. -/
def expand (c : Resolver) (inherit : Option String → String → Step (List NodeId))
    (resolve : List NodeId → Step (List NodeId)) (document : Option String) (id : NodeId) :
    Step (List NodeId) := do
  let h := (← get).store.head id
  match h.attribute? "src" with
  | none => Step.fail (.missingSource (some h.location))
  | some source =>
    let path := c.layoutPath source
    let chain := (← get).chain
    if path ∈ chain then Step.fail (.circular (chain ++ [path]) (some h.location))
    let layout ← inherit document path
    if c.tracking then Step.note (.depends ⟨path, document⟩)
    let template ← resolve ((← get).store.content id)
    Step.merge layout template

/-- The nodes that one node gives way to. A node that extends nothing keeps its place and has its content
resolved in place. -/
def resolveNode (c : Resolver) (inherit : Option String → String → Step (List NodeId))
    (resolve : List NodeId → Step (List NodeId)) (document : Option String) (id : NodeId) :
    Step (List NodeId) := do
  let s := (← get).store
  if (s.head id).isTagNamed extendsTag then
    c.expand inherit resolve document id
  else
    unless (s.content id).isEmpty do
      let content ← resolve (s.content id)
      modify fun r => { r with store := r.store.setContent id content }
    return [id]

/-- Visits nodes from left to right; each gives way to the nodes that `visit` returns for it. -/
def flatVisit (visit : NodeId → Step (List NodeId)) : List NodeId → Step (List NodeId)
  | [] => return []
  | id :: rest => do
    let here ← visit id
    let after ← flatVisit visit rest
    return here ++ after

/-- Resolves the nodes of one document down to a depth. No branch is longer than the store was when the
document was entered, so what lies deeper has been resolved before, in another place. -/
def resolveTo (c : Resolver) (inherit : Option String → String → Step (List NodeId))
    (document : Option String) : (depth : Nat) → List NodeId → Step (List NodeId)
  | 0, tree => return tree
  | depth + 1, tree =>
    flatVisit (c.resolveNode inherit (resolveTo c inherit document depth) document) tree

/-- Resolves a document, where `inherit` gives the nodes of the layouts that it extends. -/
def resolveWith (c : Resolver) (inherit : Option String → String → Step (List NodeId))
    (document : Option String) (tree : List NodeId) : Step (List NodeId) := do
  let depth := (← get).store.size
  c.resolveTo inherit document depth tree

/-- The resolved nodes of a layout, when at most `more` layouts can be in progress inside it. -/
def inherited (c : Resolver) : (more : Nat) → (document : Option String) → (path : String) →
    Step (List NodeId)
  | 0, _, path => throw (.file (.textMissing path))
  | more + 1, document, path =>
    c.loadLayout document path fun tree => c.resolveWith (inherited c more) (some path) tree

/-- Resolves all inheritance in a tree. Every layout in progress was read from a path of its own, so the
bound on their number is never met. -/
def resolve (c : Resolver) (document : Option String) (tree : List NodeId) : Step (List NodeId) :=
  c.resolveWith (c.inherited (c.library.paths.length + 1)) document tree

end Resolver

end LayoutInheritance
