import LayoutInheritance.Encoding.Utf8
import LayoutInheritance.Yaml.Scalar

/-! The tokens of a YAML text, and those of them that are words of their own: directives, anchors, aliases
and tags. -/

namespace LayoutInheritance.Yaml

/-- A tag as it is written: a handle, unless it is written in full, and the rest. -/
structure WrittenTag where
  handle : Option String
  suffix : String
  deriving DecidableEq

inductive Directive where
  | version (major minor : Nat)
  | handle (name expansion : String)
  | other
  deriving DecidableEq

inductive Token where
  | directive (d : Directive)
  | documentStart | documentEnd
  | blockSequence | blockMapping | blockEnd
  | flowSequence | flowSequenceEnd | flowMapping | flowMappingEnd
  | blockEntry | flowEntry | key | value
  | alias (name : String)
  | anchor (name : String)
  | tag (tag : WrittenTag)
  | scalar (text : String) (plain : Bool)
  deriving DecidableEq

namespace Word

def isNameChar (x : Char) : Bool :=
  x.isAlphanum || x == '-' || x == '_'

def isUriChar (x : Char) : Bool :=
  x.isAlphanum || "-;/?:@&=+$,_.!~*'()[]%".toList.contains x

/-- The name of an anchor or an alias. -/
def name? (c : Cursor) : Option (String × Cursor) :=
  let (name, c) := c.span isNameChar
  let ended := c.peek.all fun x => isBreak x || isSpaceOrTab x || "?:,]\x7d%@`".toList.contains x
  if name.isEmpty || !ended then none else some (String.ofList name, c)

/-- Bytes written as escapes of a URI. -/
def uriBytes : (bound : Nat) → Cursor → List UInt8 × Cursor
  | 0, c => ([], c)
  | bound + 1, c =>
    match c.rest with
    | '%' :: a :: b :: _ =>
      if Text.isHexDigit a && Text.isHexDigit b then
        let (bytes, c) := uriBytes bound (c.skip 3)
        (UInt8.ofNat (Text.ofDigits 16 [a, b]) :: bytes, c)
      else ([], c)
    | _ => ([], c)

/-- The characters of a URI. -/
def uriWithin : (bound : Nat) → Cursor → Option (List Char × Cursor)
  | 0, c => some ([], c)
  | bound + 1, c =>
    match c.peek with
    | none => some ([], c)
    | some x =>
      if x == '%' then do
        let (bytes, c) := uriBytes bound c
        if bytes.isEmpty || c.peek == some '%' then none
        let here ← (Utf8.decode bytes).toOption
        let (rest, c) ← uriWithin bound c
        return (here ++ rest, c)
      else if isUriChar x then do
        let (rest, c) ← uriWithin bound c.next
        return (x :: rest, c)
      else some ([], c)

def uri? (c : Cursor) : Option (String × Cursor) := do
  let (cs, after) ← uriWithin (c.rest.length + 1) c
  if cs.isEmpty && after.index == c.index then none
  return (String.ofList cs, after)

/-- A handle: an exclamation mark alone, or a name between two of them. -/
def handle? (c : Cursor) : Option (String × Cursor) :=
  if c.peek != some '!' then none
  else if c.at? 1 == some ' ' then some ("!", c.next)
  else
    let (name, after) := c.next.span isNameChar
    if after.peek == some '!' then some (String.ofList ('!' :: name ++ ['!']), after.next) else none

/-- A tag from its exclamation mark on. -/
def tag? (c : Cursor) : Option (WrittenTag × Cursor) := do
  let (tag, c) ←
    if c.at? 1 == some '<' then do
      let (suffix, c) ← uri? (c.skip 2)
      if c.peek != some '>' then none
      pure ((⟨none, suffix⟩ : WrittenTag), c.next)
    else if endsItem (c.at? 1) then pure (⟨none, "!"⟩, c.next)
    else do
      let word := c.next.rest.takeWhile fun x => !(isBreak x || x == ' ')
      let (handle, c) ← if word.contains '!' then handle? c else pure ("!", c.next)
      let (suffix, c) ← uri? c
      pure (⟨some handle, suffix⟩, c)
  if endsWord c.peek then return (tag, c) else none

def number? (c : Cursor) : Option (Nat × Cursor) :=
  let (digits, c) := c.span Char.isDigit
  if digits.isEmpty then none else some (Text.ofDigits 10 digits, c)

/-- A directive from its percent sign on, with the rest of its line. -/
def directive? (c : Cursor) : Option (Directive × Cursor) := do
  let (name, c) := c.next.span isNameChar
  if name.isEmpty || !endsWord c.peek then none
  let (directive, c) ←
    if name == "YAML".toList then do
      let (major, c) ← number? (c.skipWhile (· == ' '))
      if c.peek != some '.' then none
      let (minor, c) ← number? c.next
      if !endsWord c.peek then none
      pure (Directive.version major minor, c)
    else if name == "TAG".toList then do
      let (handle, c) ← handle? (c.skipWhile (· == ' '))
      if c.peek != some ' ' then none
      let (expansion, c) ← uri? (c.skipWhile (· == ' '))
      if !endsWord c.peek then none
      pure (Directive.handle handle expansion, c)
    else pure (Directive.other, c.skipWhile (!isBreak ·))
  let c ← Scalar.ignoredLine? c
  return (directive, c)

end Word

end LayoutInheritance.Yaml
