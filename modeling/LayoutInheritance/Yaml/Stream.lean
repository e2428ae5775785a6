import LayoutInheritance.Yaml.Token

/-! A YAML text as a stream of tokens. Indentation opens and closes collections outside of brackets. A
key without a mark of its own is known only by the colon after it, so the place of what may be such a key is
kept, and the tokens that open it go in at that place when the colon comes. -/

namespace LayoutInheritance.Yaml

/-- What may turn out to be a key: how many tokens come before it, and where it stands. -/
structure PossibleKey where
  count : Nat
  index : Nat
  line : Nat
  column : Nat
  /-- Nothing else can stand there. -/
  required : Bool

/-- The tokens of a text up to a fault, if it has one. -/
structure Tokens where
  items : List Token
  fault : Option Fault := none

/-- Where the reading of a stream stands. -/
structure Stream where
  cursor : Cursor
  tokens : Array Token := #[]
  /-- How many brackets are open. -/
  depth : Nat := 0
  /-- The columns of the open collections outside of brackets, innermost first. -/
  indents : List Nat := []
  keyAllowed : Bool := true
  /-- The possible key at each depth of brackets. -/
  keys : List (Nat × PossibleKey) := []

namespace Stream

/-- The longest distance between the beginning of a key and its colon. -/
def longestKey : Nat := 1024

def indent? (s : Stream) : Option Nat :=
  s.indents.head?

def push (s : Stream) (t : Token) : Stream :=
  { s with tokens := s.tokens.push t }

/-- A token that takes up characters. -/
def take (s : Stream) (t : Token) (count : Nat) : Stream :=
  { s with tokens := s.tokens.push t, cursor := s.cursor.skip count }

/-- Skips spaces, comments and line breaks. Outside of brackets a key may begin on a new line. -/
def skipBlankWithin : (bound : Nat) → Stream → Stream
  | 0, s => s
  | bound + 1, s =>
    let c := s.cursor.skipWhile (· == ' ')
    let c := if c.peek == some '#' then c.skipWhile (!isBreak ·) else c
    match c.break? with
    | some (_, c) => skipBlankWithin bound { s with cursor := c, keyAllowed := s.keyAllowed || s.depth == 0 }
    | none => { s with cursor := c }

def skipBlank (s : Stream) : Stream :=
  let c := s.cursor
  let c := if c.index == 0 && c.peek == some Cursor.byteOrderMark then c.next else c
  skipBlankWithin (c.rest.length + 1) { s with cursor := c }

/-- Forgets the possible keys that a colon here would come too late for. -/
def dropStale (s : Stream) : Except Fault Stream :=
  let stale (k : Nat × PossibleKey) := k.2.line != s.cursor.line || longestKey < s.cursor.index - k.2.index
  if s.keys.any fun k => stale k && k.2.required then throw .malformed
  else return { s with keys := s.keys.filter fun k => !stale k }

/-- Forgets the possible key at this depth. -/
def dropKey (s : Stream) : Except Fault Stream :=
  if s.keys.any fun k => k.1 == s.depth && k.2.required then throw .malformed
  else return { s with keys := s.keys.filter fun k => k.1 != s.depth }

/-- Keeps this place as that of a possible key. -/
def saveKey (s : Stream) : Except Fault Stream :=
  if s.keyAllowed then do
    let required := s.depth == 0 && s.indent? == some s.cursor.column
    let s ← s.dropKey
    return { s with keys := (s.depth,
      { count := s.tokens.size, index := s.cursor.index, line := s.cursor.line
        column := s.cursor.column, required }) :: s.keys }
  else return s

/-- Closes the collections that are indented beyond a column; without one, all of them. -/
def unwindTo (column? : Option Nat) : (indents : List Nat) → Array Token → List Nat × Array Token
  | [], tokens => ([], tokens)
  | i :: outer, tokens =>
    if column?.all (· < i) then unwindTo column? outer (tokens.push .blockEnd) else (i :: outer, tokens)

def unwind (s : Stream) (column? : Option Nat) : Stream :=
  if s.depth != 0 then s
  else
    let (indents, tokens) := unwindTo column? s.indents s.tokens
    { s with indents, tokens }

/-- Opens a collection at a column, when it is indented beyond the current one; its token goes in at a
place among the tokens. -/
def openAt (s : Stream) (column place : Nat) (t : Token) : Stream :=
  if s.depth == 0 && s.indent?.all (· < column) then
    { s with indents := column :: s.indents, tokens := s.tokens.insertIdxIfInBounds place t }
  else s

/-- Opens a collection here. -/
def openHere (s : Stream) (t : Token) : Stream :=
  s.openAt s.cursor.column s.tokens.size t

/-- The directives and marks between documents, which end all that is open. -/
def between (s : Stream) : Except Fault Stream := do
  let s ← (s.unwind none).dropKey
  return { s with keyAllowed := false }

def flowStart (s : Stream) (t : Token) : Except Fault Stream := do
  let s ← s.saveKey
  return { (s.take t 1) with depth := s.depth + 1, keyAllowed := true }

def flowEnd (s : Stream) (t : Token) : Except Fault Stream := do
  if s.depth == 0 then throw .malformed
  let s ← s.dropKey
  return { (s.take t 1) with depth := s.depth - 1, keyAllowed := false }

def flowEntry (s : Stream) : Except Fault Stream := do
  let s ← s.dropKey
  return { (s.take .flowEntry 1) with keyAllowed := true }

def blockEntry (s : Stream) : Except Fault Stream := do
  if s.depth == 0 && !s.keyAllowed then throw .malformed
  let s ← (s.openHere .blockSequence).dropKey
  return { (s.take .blockEntry 1) with keyAllowed := true }

/-- A key with a mark of its own. -/
def key (s : Stream) : Except Fault Stream := do
  if s.depth == 0 && !s.keyAllowed then throw .malformed
  let s ← (s.openHere .blockMapping).dropKey
  return { (s.take .key 1) with keyAllowed := s.depth == 0 }

/-- A colon. It makes a key of the possible key at this depth, if there is one. -/
def value (s : Stream) : Except Fault Stream :=
  match s.keys.find? fun k => k.1 == s.depth with
  | some (_, k) =>
    let s := { s with
      keys := s.keys.filter fun k => k.1 != s.depth
      tokens := s.tokens.insertIdxIfInBounds k.count .key }
    let s := s.openAt k.column k.count .blockMapping
    .ok { (s.take .value 1) with keyAllowed := false }
  | none => do
    if s.depth == 0 && !s.keyAllowed then throw .malformed
    let s ← (s.openHere .blockMapping).dropKey
    return { (s.take .value 1) with keyAllowed := s.depth == 0 }

/-- Something that is read as a whole and may be a key. -/
def word (s : Stream) (read : Cursor → Except Fault (Token × Cursor)) : Except Fault Stream := do
  let s ← s.saveKey
  let (t, cursor) ← read s.cursor
  return { (s.push t) with cursor, keyAllowed := false }

def plain (s : Stream) : Except Fault Stream := do
  let s ← s.saveKey
  let (cs, cursor, broken) := Scalar.plain (s.depth != 0) ((s.indent?.map (· + 1)).getD 0) s.cursor
  return { (s.push (.scalar (String.ofList cs) true)) with cursor, keyAllowed := broken }

def block (s : Stream) : Except Fault Stream := do
  let s ← s.dropKey
  let (cs, cursor) ← orMalformed (Scalar.block? s.indent? s.cursor)
  return { (s.push (.scalar (String.ofList cs) false)) with cursor, keyAllowed := true }

/-- The next token, where something is left of the text. -/
def step (s : Stream) (x : Char) : Except Fault Stream :=
  let c := s.cursor
  let inFlow := s.depth != 0
  let ends := endsItem (c.at? 1)
  if c.column == 0 && x == '%' then do
    let s ← s.between
    let (d, cursor) ← orMalformed (Word.directive? s.cursor)
    return { (s.push (.directive d)) with cursor }
  else if c.column == 0 && c.isTriple '-' then s.between.map (·.take .documentStart 3)
  else if c.column == 0 && c.isTriple '.' then s.between.map (·.take .documentEnd 3)
  else if x == '[' then s.flowStart .flowSequence
  else if x == '\x7b' then s.flowStart .flowMapping
  else if x == ']' then s.flowEnd .flowSequenceEnd
  else if x == '\x7d' then s.flowEnd .flowMappingEnd
  else if x == ',' then s.flowEntry
  else if x == '-' && ends then s.blockEntry
  else if x == '?' && (inFlow || ends) then s.key
  else if x == ':' && (inFlow || ends) then s.value
  else if x == '*' then s.word fun c => (orMalformed (Word.name? c.next)).map fun (n, c) => (.alias n, c)
  else if x == '&' then s.word fun c => (orMalformed (Word.name? c.next)).map fun (n, c) => (.anchor n, c)
  else if x == '!' then s.word fun c => (orMalformed (Word.tag? c)).map fun (t, c) => (.tag t, c)
  else if (x == '|' || x == '>') && !inFlow then s.block
  else if x == '\'' || x == '"' then
    s.word fun c => (Scalar.quoted c).map fun (cs, c) => (.scalar (String.ofList cs) false, c)
  else if Scalar.startsPlain inFlow c then s.plain
  else throw .malformed

/-- Reads what comes next, and says whether it was a token. All that is open ends with the text. -/
def next (s : Stream) : Except Fault (Stream × Bool) := do
  let s ← s.skipBlank.dropStale
  let s := s.unwind (some s.cursor.column)
  match s.cursor.peek with
  | some x => return (← s.step x, true)
  | none => return (← (s.unwind none).dropKey, false)

/-- The tokens that are sure here: none of those from a possible key on, which a colon may yet change. -/
def sure (s : Stream) : List Token :=
  s.tokens.toList.take ((s.keys.map fun k => k.2.count).foldl min s.tokens.size)

/-- Reads to the end of the text, or to a fault. -/
def readWithin : (bound : Nat) → Stream → Tokens
  | 0, s => ⟨s.sure, some .malformed⟩
  | bound + 1, s =>
    match s.dropStale with
    | .error fault => ⟨s.sure, some fault⟩
    | .ok s =>
      match s.next with
      | .error fault => ⟨s.sure, some fault⟩
      | .ok (s, true) => readWithin bound s
      | .ok (s, false) => ⟨s.tokens.toList, none⟩

end Stream

namespace Tokens

/-- The tokens of a text. Some characters may stand in no text. -/
def ofChars (text : List Char) : Tokens :=
  if text.all isAllowed then Stream.readWithin (text.length + 1) { cursor := { rest := text } }
  else ⟨[], some .malformed⟩

end Tokens

end LayoutInheritance.Yaml
