import LayoutInheritance.Data.Basic
import LayoutInheritance.Decimal.Text
import LayoutInheritance.Text.Hex

/-! Data as JSON. The text is ASCII, and every item of a list or mapping stands on a line of its own. -/

namespace LayoutInheritance.Json

/-- The UTF-16 units of a code point. -/
def units (n : Nat) : List Nat :=
  if n < 0x10000 then [n] else [0xd800 + (n - 0x10000) / 1024, 0xdc00 + (n - 0x10000) % 1024]

def unitEscape (u : Nat) : List Char :=
  '\\' :: 'u' :: Text.hexDigits 4 u

/-- A character inside quotes. The printable ASCII characters stand for themselves, but for the quote and
the backslash. -/
def escaped (c : Char) : List Char :=
  if c = '"' ∨ c = '\\' then ['\\', c]
  else if ' ' ≤ c ∧ c ≤ '~' then [c]
  else if c = '\n' then ['\\', 'n']
  else if c = '\r' then ['\\', 'r']
  else if c = '\t' then ['\\', 't']
  else if c = '\x0c' then ['\\', 'f']
  else if c = '\x08' then ['\\', 'b']
  else (units c.toNat).flatMap unitEscape

def quoted (s : String) : String :=
  String.ofList ('"' :: s.toList.flatMap escaped ++ ['"'])

/-- How numbers are named that are none. -/
def floatNames : Decimal.SpecialNames := ⟨"NaN", "Infinity"⟩

/-- A line end and the indentation of the line that follows. -/
def lineBreak (indent depth : Nat) : String :=
  String.ofList ('\n' :: List.replicate (indent * depth) ' ')

/-- Items between brackets, at a depth; nothing stands between the brackets when there are none. -/
def enclosed (first last : String) (indent depth : Nat) (items : List String) : String :=
  if items.isEmpty then first ++ last
  else first ++ lineBreak indent (depth + 1) ++ ("," ++ lineBreak indent (depth + 1)).intercalate items
    ++ lineBreak indent depth ++ last

def openBrace : String := "\x7b"

def closeBrace : String := "\x7d"

end Json

namespace Data

mutual

/-- The JSON text of data that is nested to a depth. -/
def jsonAt (indent depth : Nat) : Data → String
  | null => "null"
  | bool b => if b then "true" else "false"
  | int n => toString n
  | float x => Decimal.floatText Json.floatNames x
  | text s => Json.quoted s
  | list items => Json.enclosed "[" "]" indent depth (jsonItems indent (depth + 1) items)
  | map entries =>
    Json.enclosed Json.openBrace Json.closeBrace indent depth (jsonEntries indent (depth + 1) entries)

def jsonItems (indent depth : Nat) : List Data → List String
  | [] => []
  | d :: rest => d.jsonAt indent depth :: jsonItems indent depth rest

def jsonEntries (indent depth : Nat) : List (String × Data) → List String
  | [] => []
  | (key, d) :: rest =>
    (Json.quoted key ++ ": " ++ d.jsonAt indent depth) :: jsonEntries indent depth rest

end

/-- The JSON text of data, each depth indented by some more spaces. -/
def json (indent : Nat) (d : Data) : String :=
  d.jsonAt indent 0

example : json 2 (.list [.int (-1), .list []]) = "[\n  -1,\n  []\n]" := by decide +kernel
example : json 0 (.text "\u00e9\x7f😀") = "\"\\u00e9\\u007f\\ud83d\\ude00\"" := by decide +kernel

end Data

end LayoutInheritance
