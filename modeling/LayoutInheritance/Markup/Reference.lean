import LayoutInheritance.Decimal.Reading
import LayoutInheritance.Markup.Reference.Names

/-! Character references in attribute values: by number, with the replacements of the HTML standard,
or by name, where the longest name that the table knows counts and the rest stays as it is. A decimal
number may be too long to be read. -/

namespace LayoutInheritance.Reference

/-- What a name stands for. -/
def named? : List Char → Option (List Char)
  | [] => none
  | c :: cs => (((names.lookup c).getD []).lookup (String.ofList (c :: cs))).map String.toList

/-- What the numbers 0x80 to 0x9f stand for. -/
def controlReplacements : List Char :=
  ['\u20ac', '\u0081', '\u201a', '\u0192', '\u201e', '\u2026', '\u2020', '\u2021', '\u02c6', '\u2030',
   '\u0160', '\u2039', '\u0152', '\u008d', '\u017d', '\u008f', '\u0090', '\u2018', '\u2019', '\u201c',
   '\u201d', '\u2022', '\u2013', '\u2014', '\u02dc', '\u2122', '\u0161', '\u203a', '\u0153', '\u009d',
   '\u017e', '\u0178']

/-- Code points that a reference may not name; they vanish. -/
def isForbidden (n : Nat) : Bool :=
  (0x1 ≤ n && n ≤ 0x8) || n == 0xb || (0xe ≤ n && n ≤ 0x1f) || n == 0x7f
    || (0xfdd0 ≤ n && n ≤ 0xfdef) || n % 0x10000 == 0xfffe || n % 0x10000 == 0xffff

def numbered (n : Nat) : List Char :=
  if n = 0 then ['\ufffd']
  else if n = 0xd then ['\r']
  else if 0x80 ≤ n ∧ n ≤ 0x9f then [controlReplacements.getD (n - 0x80) ' ']
  else if (0xd800 ≤ n ∧ n ≤ 0xdfff) ∨ 0x10ffff < n then ['\ufffd']
  else if isForbidden n then []
  else [Char.ofNat n]

/-- The longest known beginning of at least two characters, and at most `length`, before the rest. -/
def longestNamed? (name : List Char) : (length : Nat) → Option (List Char)
  | 0 | 1 => none
  | length + 2 =>
    match named? (name.take (length + 2)) with
    | some value => some (value ++ name.drop (length + 2))
    | none => longestNamed? name (length + 1)

def byName (name : List Char) : List Char :=
  match named? name with
  | some value => value
  | none => (longestNamed? name (name.length - 1)).getD ('&' :: name)

def isNameChar (c : Char) : Bool :=
  !(['\t', '\n', '\x0c', ' ', '<', '&', '#', ';'].contains c)

/-- Counts the semicolon that may end a reference. -/
def closed (length : Nat) (rest : List Char) : Nat :=
  if rest.head? = some ';' then length + 1 else length

/-- The digits of a hexadecimal number, after its mark. -/
def hexadecimal : List Char → List Char
  | 'x' :: rest | 'X' :: rest => rest.takeWhile Text.isHexDigit
  | _ => []

/-- A reference by number, after its mark: what it stands for, and how many characters follow the
ampersand. A decimal number with too many digits is refused with their count. -/
def readNumber? (cs : List Char) : Except Nat (Option (List Char × Nat)) :=
  let decimal := cs.takeWhile Char.isDigit
  let hexadecimal := hexadecimal cs
  if Decimal.mostDigits < decimal.length then .error decimal.length
  else if decimal ≠ [] then
    .ok (some (numbered (Text.ofDigits 10 decimal),
      closed (1 + decimal.length) (cs.drop decimal.length)))
  else if hexadecimal ≠ [] then
    .ok (some (numbered (Text.ofDigits 16 hexadecimal),
      closed (2 + hexadecimal.length) (cs.drop (1 + hexadecimal.length))))
  else .ok none

/-- A reference by name. A name that is not known stands for itself. -/
def readName? (cs : List Char) : Option (List Char × Nat) :=
  let name := (cs.take 32).takeWhile isNameChar
  if name = [] then none
  else
    let length := closed name.length (cs.drop name.length)
    some (byName (cs.take length), length)

/-- The reference after an ampersand, if there is one. -/
def read? : List Char → Except Nat (Option (List Char × Nat))
  | '#' :: cs => readNumber? cs
  | cs => .ok (readName? cs)

/-- Decodes what follows; the first `owed` characters belong to a reference already decoded. -/
def decodeFrom : (owed : Nat) → List Char → Except Nat (List Char)
  | _, [] => .ok []
  | owed + 1, _ :: cs => decodeFrom owed cs
  | 0, '&' :: cs =>
    match read? cs with
    | .error count => .error count
    | .ok (some (value, length)) => (decodeFrom length cs).map (value ++ ·)
    | .ok none => (decodeFrom 0 cs).map ('&' :: ·)
  | 0, c :: cs => (decodeFrom 0 cs).map (c :: ·)

def decode (cs : List Char) : Except Nat (List Char) :=
  decodeFrom 0 cs

example : (decode "a&amp;b&#x41;&lt".toList).toOption = some "a&bA<".toList := by decide +kernel
example : (decode "&notit; &nope;".toList).toOption = some "\u00acit; &nope;".toList := by decide +kernel

end LayoutInheritance.Reference
