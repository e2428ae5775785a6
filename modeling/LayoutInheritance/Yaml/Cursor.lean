/-! A place in a YAML text: what is left of it, and how far it has been read. -/

namespace LayoutInheritance.Yaml

/-- The characters that end a line. -/
def isBreak (c : Char) : Bool :=
  c == '\n' || c == '\r' || c == '\u0085' || c == '\u2028' || c == '\u2029'

/-- A space or a tab. -/
def isSpaceOrTab (c : Char) : Bool :=
  c == ' ' || c == '\t'

/-- What a text may be made of. -/
def isAllowed (c : Char) : Bool :=
  let n := c.toNat
  n == 0x9 || n == 0xa || n == 0xd || (0x20 ≤ n && n ≤ 0x7e) || n == 0x85 || (0xa0 ≤ n && n ≤ 0xd7ff)
    || (0xe000 ≤ n && n ≤ 0xfffd) || 0x10000 ≤ n

structure Cursor where
  rest : List Char
  /-- How many characters have been read, of the text and of the line. -/
  index : Nat := 0
  column : Nat := 0
  line : Nat := 0

namespace Cursor

def byteOrderMark : Char := '\ufeff'

/-- One character further. A byte order mark has no width. -/
def next (c : Cursor) : Cursor :=
  match c.rest with
  | [] => c
  | x :: rest =>
    let c := { c with rest, index := c.index + 1 }
    if isBreak x && !(x == '\r' && rest.head? == some '\n') then { c with column := 0, line := c.line + 1 }
    else if x == byteOrderMark then c
    else { c with column := c.column + 1 }

def skip (c : Cursor) : (count : Nat) → Cursor
  | 0 => c
  | count + 1 => c.next.skip count

def peek (c : Cursor) : Option Char :=
  c.rest.head?

def at? (c : Cursor) (n : Nat) : Option Char :=
  c.rest[n]?

/-- The characters from here on that satisfy `p`, and the place after them. -/
def span (c : Cursor) (p : Char → Bool) : List Char × Cursor :=
  let taken := c.rest.takeWhile p
  (taken, c.skip taken.length)

def skipWhile (c : Cursor) (p : Char → Bool) : Cursor :=
  (c.span p).2

/-- The line break that stands here; all short ones count as a line feed. -/
def break? (c : Cursor) : Option (Char × Cursor) :=
  match c.rest with
  | '\r' :: '\n' :: _ => some ('\n', c.skip 2)
  | x :: _ =>
    if x == '\u2028' || x == '\u2029' then some (x, c.next)
    else if isBreak x then some ('\n', c.next)
    else none
  | [] => none

end Cursor

/-- The end of the text or of the line. -/
def endsLine (c : Option Char) : Bool :=
  c.all isBreak

/-- The end of the text or of the line, or a space. -/
def endsWord (c : Option Char) : Bool :=
  c.all fun x => isBreak x || x == ' '

/-- The end of the text or of the line, a space or a tab. -/
def endsItem (c : Option Char) : Bool :=
  c.all fun x => isBreak x || isSpaceOrTab x

/-- Whether three marks in a row stand here, and nothing that goes on with them. -/
def Cursor.isTriple (c : Cursor) (mark : Char) : Bool :=
  c.rest.take 3 == [mark, mark, mark] && endsItem (c.at? 3)

/-- Whether the line begins a document or ends one. -/
def Cursor.isDocumentMark (c : Cursor) : Bool :=
  c.isTriple '-' || c.isTriple '.'

end LayoutInheritance.Yaml
