import LayoutInheritance.Yaml.Graph.Basic
import LayoutInheritance.Yaml.Stream

/-! The graph of a YAML document, drawn from its tokens. Only one token is looked at before it is needed, so
that a fault among the tokens shows only where it is met. -/

namespace LayoutInheritance.Yaml

/-- The handles of a document and what they stand for. -/
abbrev Handles := List (String × String)

def commonHandles : Handles :=
  [("!", "!"), ("!!", Tag.commonPart)]

/-- A graph in the making: the tokens that are left, the nodes so far and where their anchors stand. -/
structure Graph.Draft where
  tokens : Tokens
  graph : Graph := {}
  anchors : List (String × Graph.Id) := []
  handles : Handles := commonHandles

namespace Graph.Draft

/-- A step in the making of a graph. -/
abbrev Step (α : Type) := StateT Draft (Except Fault) α

def refuse {α : Type} : Step α :=
  throw .malformed

/-- The next token; nothing at the end of the text. -/
def peek : Step (Option Token) := do
  match (← get).tokens with
  | ⟨t :: _, _⟩ => return some t
  | ⟨[], none⟩ => return none
  | ⟨[], some fault⟩ => throw fault

def skip : Step Unit :=
  modify fun d => { d with tokens := { d.tokens with items := d.tokens.items.tail } }

def stands (ts : List Token) : Step Bool :=
  return (← peek).any ts.contains

/-- Skips the token, if it stands here. -/
def skips (t : Token) : Step Bool := do
  if ← stands [t] then
    skip
    return true
  return false

def expect (t : Token) : Step Unit := do
  if !(← skips t) then refuse

/-! ### Nodes -/

/-- The anchor and the tag before a node, in either order. -/
def properties : Step (Option String × Option WrittenTag) := do
  match ← peek with
  | some (.anchor a) =>
    skip
    match ← peek with
    | some (.tag t) =>
      skip
      return (some a, some t)
    | _ => return (some a, none)
  | some (.tag t) =>
    skip
    match ← peek with
    | some (.anchor a) =>
      skip
      return (some a, some t)
    | _ => return (none, some t)
  | _ => return (none, none)

/-- A tag in full; a handle has to be known. -/
def fullTag (t : WrittenTag) : Step String := do
  match t.handle with
  | none => return t.suffix
  | some handle =>
    match (← get).handles.lookup handle with
    | some expansion => return expansion ++ t.suffix
    | none => refuse

/-- Adds a node, with its anchor. No two nodes have the same one. -/
def add (anchor? : Option String) (n : Node) : Step Id := do
  let d ← get
  if anchor?.any fun a => (d.anchors.lookup a).isSome then refuse
  let (id, graph) := d.graph.add n
  set { d with graph, anchors := (anchor?.map (·, id)).toList ++ d.anchors }
  return id

/-- Adds a collection that is filled afterwards, so that it may stand in itself. -/
def addFilled {α : Type} (anchor? : Option String) (n : List α → Node) (inside : Step (List α)) : Step Id := do
  let id ← add anchor? (n [])
  let parts ← inside
  modify fun d => { d with graph := d.graph.replace id (n parts) }
  return id

def addEmpty : Step Id :=
  add none .empty

/-- Where a node stands, which decides what may stand there. -/
inductive Place where
  /-- Outside of brackets; entries without indentation of their own may follow a key. -/
  | block (entries : Bool)
  | flow
  deriving DecidableEq

/-- The tag that is only a mark: the form decides, whatever the quotes. -/
def markTag : String := "!"

mutual

/-- A node. The bound is met once it exceeds three times the number of tokens. -/
def node : (bound : Nat) → Place → Step Id
  | 0, _ => refuse
  | bound + 1, place => do
    match ← peek with
    | some (.alias name) =>
      skip
      match (← get).anchors.lookup name with
      | some id => return id
      | none => refuse
    | _ =>
      let (anchor, written) ← properties
      let full ← written.mapM fullTag
      let tag := (full.filter (· != markTag)).map Tag.ofName
      let items := addFilled anchor (Node.sequence (tag.getD .sequence))
      let pairs := addFilled anchor (Node.mapping (tag.getD .mapping))
      let nothing : Step Id :=
        if anchor.isSome || full.isSome then add anchor (.scalar (tag.getD .null) "") else refuse
      match ← peek with
      | some (.scalar text plain) =>
        skip
        let byForm := (plain && full.isNone) || full == some markTag
        add anchor (.scalar (if byForm then Tag.ofForm text else tag.getD .text) text)
      | some .flowSequence => items (do skip; flowItems bound true)
      | some .flowMapping => pairs (do skip; flowPairs bound true)
      | some .blockEntry => if place = .block true then items (entries bound false) else nothing
      | some .blockSequence => if place = .flow then nothing else items (do skip; entries bound true)
      | some .blockMapping => if place = .flow then nothing else pairs (do skip; blockPairs bound)
      | _ => nothing

/-- A node, or an empty one before any of the tokens in `ends`. -/
def nodeUnless : (bound : Nat) → Place → (ends : List Token) → Step Id
  | 0, _, _ => refuse
  | bound + 1, place, ends => do
    if ← stands ends then addEmpty else node bound place

/-- The entries of a sequence outside of brackets; `closed` when a token ends it. -/
def entries : (bound : Nat) → (closed : Bool) → Step (List Id)
  | 0, _ => refuse
  | bound + 1, closed => do
    if ← skips .blockEntry then
      let id ← nodeUnless bound (.block false)
        ([.blockEntry, .blockEnd] ++ if closed then [] else [.key, .value])
      return id :: (← entries bound closed)
    if closed then expect .blockEnd
    return []

/-- The pairs of a mapping outside of brackets. -/
def blockPairs : (bound : Nat) → Step (List Entry)
  | 0 => refuse
  | bound + 1 => do
    let ends := [.key, .value, .blockEnd]
    if ← skips .key then
      let k ← nodeUnless bound (.block true) ends
      let v ← if ← skips .value then nodeUnless bound (.block true) ends else addEmpty
      return (k, v) :: (← blockPairs bound)
    expect .blockEnd
    return []

/-- A pair in brackets, after the token of its key. `close` is the closing bracket. -/
def flowPair : (bound : Nat) → (close : Token) → Step Entry
  | 0, _ => refuse
  | bound + 1, close => do
    let k ← nodeUnless bound .flow [.flowEntry, close, .value]
    let v ← if ← skips .value then nodeUnless bound .flow [.flowEntry, close] else addEmpty
    return (k, v)

/-- The items of a sequence in brackets. A key among them makes a mapping of one pair. -/
def flowItems : (bound : Nat) → (first : Bool) → Step (List Id)
  | 0, _ => refuse
  | bound + 1, first => do
    if ← skips .flowSequenceEnd then return []
    if !first then expect .flowEntry
    if ← skips .flowSequenceEnd then return []
    let id ← if ← skips .key then
        addFilled none (Node.mapping .mapping) (do return [← flowPair bound .flowSequenceEnd])
      else node bound .flow
    return id :: (← flowItems bound false)

/-- The pairs of a mapping in brackets. A node without a mark is a key without a value. -/
def flowPairs : (bound : Nat) → (first : Bool) → Step (List Entry)
  | 0, _ => refuse
  | bound + 1, first => do
    if ← skips .flowMappingEnd then return []
    if !first then expect .flowEntry
    if ← skips .flowMappingEnd then return []
    let pair ← if ← skips .key then flowPair bound .flowMappingEnd
      else do
        let k ← node bound .flow
        pure (k, ← addEmpty)
    return pair :: (← flowPairs bound false)

end

/-! ### Documents -/

/-- The directives before a document: at most one version, of the first major, and each handle once. The
bound is met once it exceeds the number of tokens. -/
def directives : (bound : Nat) → (versioned : Bool) → Handles → Step Handles
  | 0, _, _ => refuse
  | bound + 1, versioned, handles => do
    match ← peek with
    | some (.directive directive) =>
      skip
      match directive with
      | .version major _ =>
        if versioned || major != 1 then refuse
        directives bound true handles
      | .handle name expansion =>
        if (handles.lookup name).isSome then refuse
        directives bound versioned ((name, expansion) :: handles)
      | .other => directives bound versioned handles
    | _ => return handles ++ commonHandles

/-- Nothing but the ends of documents may follow. -/
def ending : (bound : Nat) → Step Unit
  | 0 => refuse
  | bound + 1 => do
    if ← skips .documentEnd then ending bound
    else if (← peek).isSome then
      let _ ← directives (bound + 1) false []
      refuse

/-- The only document among the tokens; nothing when there is none. -/
def document : Step (Option Id) := do
  let size := (← get).tokens.items.length
  let bound := 3 * size + 3
  match ← peek with
  | none => return none
  | some (.directive _) | some .documentStart =>
    let handles ← directives (size + 1) false []
    modify fun d => { d with handles }
    expect .documentStart
    let id ← match ← peek with
      | none | some (.directive _) | some .documentStart | some .documentEnd => addEmpty
      | _ => node bound (.block false)
    ending (size + 1)
    return some id
  | _ =>
    let id ← node bound (.block false)
    ending (size + 1)
    return some id

end Graph.Draft

/-- The graph of the only document among tokens and the number of its outermost node, if there is a
document. -/
def Graph.ofTokens? (tokens : Tokens) : Except Fault (Option Graph.Id × Graph) := do
  let (root, d) ← Graph.Draft.document.run { tokens }
  return (root, d.graph)

end LayoutInheritance.Yaml
