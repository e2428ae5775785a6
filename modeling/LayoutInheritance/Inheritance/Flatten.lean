import LayoutInheritance.Inheritance.Resolver

/-! Flattening: a document's inheritance is resolved, and then all blocks are unwrapped, so that no mark
of inheritance is left. -/

namespace LayoutInheritance

/-- What documents are flattened with. -/
structure Setting where
  library : Library
  cwd : Path
  options : Options := {}
  /-- Whether dependencies are recorded. -/
  tracking : Bool := true

namespace Setting

/-- The resolver for a document. Only a missing root is derived from the document's name. -/
def resolver (setting : Setting) (filename : Option String) : Resolver :=
  let options := match setting.options.root with
    | some _ => setting.options
    | none => setting.options.resolveFor setting.cwd filename
  { library := setting.library
    cwd := setting.cwd
    root := options.rootFor filename
    encoding := options.encoding
    tracking := setting.tracking }

/-- A named document is in progress from the start, so no layout may extend it. -/
def chainFor (setting : Setting) (filename : Option String) : List String :=
  match filename with
  | none | some "" => []
  | some name => [(setting.cwd.absolute (Path.ofString name)).text]

/-- Resolves all inheritance in a document. -/
def resolve (setting : Setting) (filename : Option String) (tree : List NodeId) : Step (List NodeId) :=
  Step.withChain (setting.chainFor filename) ((setting.resolver filename).resolve filename tree)

/-- Resolves all inheritance in a document and unwraps its blocks. -/
def flatten (setting : Setting) (filename : Option String) (tree : List NodeId) :
    Step (List NodeId) := do
  let options := setting.options.resolveFor setting.cwd filename
  Step.note (.resolving filename (options.rootFor filename).text)
  let tree ← { setting with options }.resolve filename tree
  let r ← get
  let (store, tree) := r.store.unwrap tree
  set { r with store }
  return tree

/-- Reads a document from its text and flattens it. The document's own nodes carry no file name. -/
def process (setting : Setting) (filename : Option String) (text : String) : Step (List NodeId) := do
  let tree ← Step.parse text none
  setting.flatten filename tree

end Setting

/-- A document that was processed: the outcome, and the run that led to it. -/
structure Processed where
  outcome : Except Failure (List NodeId)
  run : Run

def Setting.processed (setting : Setting) (filename : Option String) (text : String) : Processed :=
  let (outcome, run) := (setting.process filename text).run {}
  ⟨outcome, run⟩

/-- The resulting document, if there is one. -/
def Processed.document? (p : Processed) : Except Failure (List Markup) :=
  p.outcome.map p.run.store.document

end LayoutInheritance
