import LayoutInheritance.Yaml.Cursor
import LayoutInheritance.Yaml.Fault

/-! The scalars of a YAML text: plain, quoted, and in blocks. Each reader returns the text of the scalar and
the place after it, or nothing, or a fault, when the scalar is malformed. The bounds are met once they reach
the length of the text that is left. -/

namespace LayoutInheritance.Yaml.Scalar

/-- Line breaks, each after any of the characters of `blank`, up to a mark of a document. -/
def breaksWithin (blank : Char → Bool) : (bound : Nat) → Cursor → List Char × Cursor
  | 0, c => ([], c)
  | bound + 1, c =>
    if c.isDocumentMark then ([], c)
    else
      let c := c.skipWhile blank
      match c.break? with
      | some (b, c) => let (bs, c) := breaksWithin blank bound c; (b :: bs, c)
      | none => ([], c)

/-- What a line break and the breaks after it stand for: a single one is a space. -/
def folded (first : Char) (more : List Char) : List Char :=
  if first != '\n' then first :: more
  else if more.isEmpty then [' ']
  else more

/-- Whether a line begins here that begins a document or ends one. -/
def atDocumentMark (c : Cursor) : Bool :=
  c.isDocumentMark && c.column == 0

/-! ### Plain scalars -/

/-- Whether a plain scalar may begin here. -/
def startsPlain (inFlow : Bool) (c : Cursor) : Bool :=
  match c.peek with
  | none => false
  | some x =>
    if "-?:,[]\x7b\x7d#&*!|>'\"%@`".toList.contains x || isBreak x || isSpaceOrTab x then
      !endsItem (c.at? 1) && (x == '-' || (!inFlow && (x == '?' || x == ':')))
    else true

/-- The characters that end a plain scalar inside brackets. -/
def isFlowMark (x : Char) : Bool :=
  ",[]\x7b\x7d".toList.contains x

/-- The part of a plain scalar that stands on one line without spaces. -/
def plainWord (inFlow : Bool) : List Char → List Char
  | [] => []
  | x :: rest =>
    let colonEnds := x == ':' && (endsItem rest.head? || (inFlow && rest.head?.any isFlowMark))
    if isBreak x || isSpaceOrTab x || colonEnds || (inFlow && (isFlowMark x || x == '?')) then []
    else x :: plainWord inFlow rest

/-- What stands between two words of a plain scalar, the place after it, and whether a line has ended. A
document mark ends the scalar. -/
def plainGap (c : Cursor) : List Char × Cursor × Bool :=
  let (spaces, c) := c.span (· == ' ')
  match c.break? with
  | none => (spaces, c, false)
  | some (b, c) =>
    let (more, c) := breaksWithin (· == ' ') c.rest.length c
    if atDocumentMark c then ([], c, true) else (folded b more, c, true)

/-- The words of a plain scalar after `gap`. `broken` says whether the last gap had a line break. -/
def plainWithin (inFlow : Bool) (indent : Nat) (gap : List Char) (broken : Bool) :
    (bound : Nat) → Cursor → List Char × Cursor × Bool
  | 0, c => ([], c, broken)
  | bound + 1, c =>
    let word := plainWord inFlow c.rest
    if c.peek == some '#' || word.isEmpty then ([], c, broken)
    else
      let (next, c, broken) := plainGap (c.skip word.length)
      if next.isEmpty || c.peek == some '#' || (!inFlow && c.column < indent) then
        (gap ++ word, c, broken)
      else
        let (more, c, broken) := plainWithin inFlow indent next broken bound c
        (gap ++ word ++ more, c, broken)

/-- A plain scalar, the place after it and the spaces that follow it, and whether a line has ended since its
last word. -/
def plain (inFlow : Bool) (indent : Nat) (c : Cursor) : List Char × Cursor × Bool :=
  plainWithin inFlow indent [] false c.rest.length c

/-! ### Quoted scalars -/

/-- The characters that an escape of one letter stands for. -/
def escapes : List (Char × Char) :=
  [('0', '\x00'), ('a', '\x07'), ('b', '\x08'), ('t', '\t'), ('\t', '\t'), ('n', '\n'), ('v', '\x0b'),
   ('f', '\x0c'), ('r', '\r'), ('e', '\x1b'), (' ', ' '), ('"', '"'), ('\\', '\\'), ('/', '/'),
   ('N', '\u0085'), ('_', '\u00a0'), ('L', '\u2028'), ('P', '\u2029')]

/-- How many hexadecimal digits follow the letter of an escape. -/
def escapeWidths : List (Char × Nat) :=
  [('x', 2), ('u', 4), ('U', 8)]

/-- The first number that is no code point. -/
def codePointEnd : Nat := 0x110000

/-- The first number that is not looked up. -/
def lookupEnd : Nat := 0x80000000

/-- The character of an escape by its number. -/
def numbered (n : Nat) : Except Fault Char :=
  if n.isValidChar then .ok (Char.ofNat n)
  else if n < codePointEnd then .error .malformed
  else if n < lookupEnd then .error .codePoint
  else .error .hugeCodePoint

/-- An escape after its backslash. -/
def escape (c : Cursor) : Except Fault (List Char × Cursor) := do
  let x ← orMalformed c.peek
  match escapes.lookup x, escapeWidths.lookup x with
  | some y, _ => return ([y], c.next)
  | none, some width =>
    let digits := c.next.rest.take width
    if digits.length < width || !(digits.all Text.isHexDigit) then throw .malformed
    return ([← numbered (Text.ofDigits 16 digits)], c.next.skip width)
  | none, none =>
    let (_, c) ← orMalformed c.break?
    return breaksWithin isSpaceOrTab c.rest.length c

/-- The inside of a quoted scalar, up to and with its closing quote. A line break in it is folded, and no
document mark may follow one. -/
def quotedWithin (quote : Char) : (bound : Nat) → Cursor → Except Fault (List Char × Cursor)
  | 0, _ => .error .malformed
  | bound + 1, c =>
    match c.rest with
    | [] => .error .malformed
    | x :: rest =>
      if quote == '\'' && x == '\'' && rest.head? == some '\'' then
        (quotedWithin quote bound (c.skip 2)).map fun (cs, c) => ('\'' :: cs, c)
      else if x == quote then .ok ([], c.next)
      else if quote == '"' && x == '\\' then do
        let (here, c) ← escape c.next
        if atDocumentMark c then throw .malformed
        let (cs, c) ← quotedWithin quote bound c
        return (here ++ cs, c)
      else if isSpaceOrTab x || isBreak x then do
        let (spaces, after) := c.span isSpaceOrTab
        match after.break? with
        | none =>
          let (cs, c) ← quotedWithin quote bound after
          return (spaces ++ cs, c)
        | some (b, after) =>
          let (more, c) := breaksWithin isSpaceOrTab after.rest.length after
          if atDocumentMark c then throw .malformed
          let (cs, c) ← quotedWithin quote bound c
          return (folded b more ++ cs, c)
      else
        (quotedWithin quote bound c.next).map fun (cs, c) => (x :: cs, c)

def quoted (c : Cursor) : Except Fault (List Char × Cursor) := do
  let quote ← orMalformed c.peek
  quotedWithin quote c.rest.length c.next

/-! ### Block scalars -/

/-- What becomes of the line breaks that end a block scalar. -/
inductive Chomping where
  | clip | strip | keep
  deriving DecidableEq

def chomping? : Option Char → Option Chomping
  | some '+' => some .keep
  | some '-' => some .strip
  | _ => none

/-- A digit from one to nine. -/
def increment? (x : Option Char) : Option Nat :=
  x.bind fun x => if '1' ≤ x ∧ x ≤ '9' then some (x.toNat - 48) else none

/-- The header of a block scalar, after its mark: chomping and indentation in either order. -/
def header? (c : Cursor) : Option (Chomping × Option Nat × Cursor) :=
  let (chomping, increment, c) :=
    match chomping? c.peek with
    | some chomping =>
      match increment? c.next.peek with
      | some n => (chomping, some n, c.skip 2)
      | none => (chomping, none, c.next)
    | none =>
      match increment? c.peek with
      | some n =>
        match chomping? c.next.peek with
        | some chomping => (chomping, some n, c.skip 2)
        | none => (.clip, some n, c.next)
      | none => (.clip, none, c)
  if endsWord c.peek then some (chomping, increment, c) else none

/-- The rest of a line that may hold only spaces and a comment. -/
def ignoredLine? (c : Cursor) : Option Cursor :=
  let c := c.skipWhile (· == ' ')
  let c := if c.peek == some '#' then c.skipWhile (!isBreak ·) else c
  if endsLine c.peek then some ((c.break?.map (·.2)).getD c) else none

/-- Skips spaces up to a column. -/
def indentTo (column : Nat) (c : Cursor) : Cursor :=
  c.skip ((c.rest.take (column - c.column)).takeWhile (· == ' ')).length

/-- Blank lines, where up to `column` spaces of a line are indentation. -/
def blankLinesWithin (column : Nat) : (bound : Nat) → Cursor → List Char × Cursor
  | 0, c => ([], c)
  | bound + 1, c =>
    match c.break? with
    | some (b, c) => let (bs, c) := blankLinesWithin column bound (indentTo column c); (b :: bs, c)
    | none => ([], c)

def blankLines (column : Nat) (c : Cursor) : List Char × Cursor :=
  blankLinesWithin column c.rest.length (indentTo column c)

/-- The blank lines before the first line of a block scalar, and the widest indentation among them and it. -/
def leadingWithin (widest : Nat) : (bound : Nat) → Cursor → List Char × Nat × Cursor
  | 0, c => ([], widest, c)
  | bound + 1, c =>
    let c := c.skipWhile (· == ' ')
    let widest := max widest c.column
    match c.break? with
    | some (b, c) => let (bs, widest, c) := leadingWithin widest bound c; (b :: bs, widest, c)
    | none => ([], widest, c)

/-- The lines of a block scalar from here on: `breaks` are the blank lines before them. -/
def linesWithin (isFolded : Bool) (chomping : Chomping) (indent : Nat) (breaks : List Char) :
    (bound : Nat) → Cursor → List Char × Cursor
  | 0, c => ([], c)
  | bound + 1, c =>
    let (line, after) := c.span (!isBreak ·)
    let (lineBreak, after) := match after.break? with
      | some (b, after) => ([b], after)
      | none => ([], after)
    let (next, after) := blankLines indent after
    if after.column == indent && after.peek.isSome then
      let joins := isFolded && lineBreak == ['\n'] && !c.peek.any isSpaceOrTab
        && !after.peek.any isSpaceOrTab
      let gap := if !joins then lineBreak else if next.isEmpty then [' '] else []
      let (more, after) := linesWithin isFolded chomping indent next bound after
      (breaks ++ line ++ gap ++ more, after)
    else
      let tail := match chomping with
        | .strip => []
        | .clip => lineBreak
        | .keep => lineBreak ++ next
      (breaks ++ line ++ tail, after)

/-- A block scalar from its mark on, inside a collection at `outer`; the top level has none. -/
def block? (outer : Option Nat) (c : Cursor) : Option (List Char × Cursor) := do
  let isFolded := c.peek == some '>'
  let (chomping, increment, c) ← header? c.next
  let c ← ignoredLine? c
  let least := max 1 ((outer.map (· + 1)).getD 0)
  let (breaks, indent, c) := match increment with
    | none =>
      let (breaks, widest, c) := leadingWithin 0 (c.rest.length + 1) c
      (breaks, max least widest, c)
    | some n =>
      let indent := least + n - 1
      let (breaks, c) := blankLines indent c
      (breaks, indent, c)
  if c.column == indent && c.peek.isSome then
    return linesWithin isFolded chomping indent breaks (c.rest.length + 1) c
  else return (if chomping = .keep then breaks else [], c)

end LayoutInheritance.Yaml.Scalar
