import LayoutInheritance.Block.Merge
import LayoutInheritance.Disk.Fault
import LayoutInheritance.Markup.Reader
import LayoutInheritance.Yaml.Fault

/-! A run of the resolution: the store that it works on, the layouts that it is in the middle of, and
what it has done so far. All of it outlives a failure. -/

namespace LayoutInheritance

/-- Why a run fails. -/
inductive Failure where
  | issue (issue : Issue)
  | file (fault : FileFault)
  | malformed (reason : Token.Fault)
  /-- A configuration with a value that cannot be. -/
  | yaml (fault : Yaml.Fault)
  /-- What is worked on is nested deeper than the stack goes. -/
  | tooDeep

def Failure.message : Failure → String
  | issue i => i.message
  | file f => f.message
  | malformed reason => reason.message
  | yaml fault => fault.message
  | tooDeep => "maximum recursion depth exceeded"

def MarkupFault.failure : MarkupFault → Failure
  | unsupported declaration l => .issue (.markup (Token.Fault.unsupported declaration).message (some l))
  | malformed reason => .malformed reason

/-- A loaded layout and the document that asked for it. -/
structure Dependency where
  file : String
  parent : Option String
  deriving DecidableEq

inductive Event where
  /-- The resolution of a whole document begins. -/
  | resolving (document : Option String) (root : String)
  /-- A layout is asked of the library, for a document. -/
  | loading (path encoding : String) (document : Option String)
  | parsing (filename : Option String)
  /-- An end tag that closes nothing. -/
  | stray (tag : String) (location : Location)
  /-- The layout's own inheritance begins to be resolved. -/
  | entered (path : String)
  | left (path : String)
  | depends (dependency : Dependency)
  /-- The blocks of a layout begin to be filled from a template. -/
  | merging (layout template : List Markup)
  | merged (block : String) (type : BlockType)

structure Run where
  store : Store := {}
  /-- The layouts in progress, outermost first, after the main document if it has a name. -/
  chain : List String := []
  /-- What has been done, in order. -/
  history : List Event := []

namespace Run

def loads (r : Run) : List (String × String) :=
  r.history.filterMap fun
    | .loading path encoding _ => some (path, encoding)
    | _ => none

def parses (r : Run) : List (Option String) :=
  r.history.filterMap fun
    | .parsing filename => some filename
    | _ => none

def dependencies (r : Run) : List Dependency :=
  r.history.filterMap fun
    | .depends dependency => some dependency
    | _ => none

def note (r : Run) (events : List Event) : Run :=
  { r with history := r.history ++ events }

def push (r : Run) (path : String) : Run :=
  { r with chain := r.chain ++ [path] }

/-- The last of the layouts in progress, whichever it is, is no longer in progress. -/
def pop (r : Run) : Run :=
  { r with chain := r.chain.dropLast }

end Run

/-- A step of a run. Its effects stay when it fails. -/
abbrev Step (α : Type) := ExceptT Failure (StateM Run) α

namespace Step

def note (event : Event) : Step Unit :=
  modify fun r => r.note [event]

def fail {α : Type} (issue : Issue) : Step α :=
  throw (.issue issue)

/-- Reads a text into the store. -/
def parse (text : String) (filename : Option String) : Step (List NodeId) := do
  let reading := Markup.read text filename
  modify fun r => r.note (.parsing filename :: reading.strays.map fun s => .stray s.1 s.2)
  match reading.document with
  | .error fault => throw fault.failure
  | .ok document =>
    let r ← get
    let (store, tree) := r.store.addAll document
    set { r with store }
    return tree

/-- Runs a step with a chain of its own. -/
def withChain {α : Type} (chain : List String) (step : Step α) : Step α :=
  ExceptT.mk fun r =>
    let (result, after) := step.run { r with chain }
    (result, { after with chain := r.chain })

/-- Runs a step with one more layout in progress. However it ends, one layout less is in progress after
it. -/
def within {α : Type} (path : String) (step : Step α) : Step α :=
  ExceptT.mk fun r =>
    match step.run ((r.note [.entered path]).push path) with
    | (.ok result, after) => (.ok result, (after.note [.left path]).pop)
    | (.error failure, after) => (.error failure, after.pop)

/-- Fills the blocks of a layout from a template; the result is the layout. -/
def merge (layout template : List NodeId) : Step (List NodeId) := do
  let r ← get
  let m := r.store.merge layout template
  set (Run.note { r with store := m.store }
    (.merging (r.store.document layout) (r.store.document template) :: m.filled.map fun f => .merged f.1 f.2))
  match m.issue? with
  | some issue => fail issue
  | none => return layout

end Step

end LayoutInheritance
