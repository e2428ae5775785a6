import LayoutInheritance.Decimal.Text
import LayoutInheritance.Text.Quoted
import LayoutInheritance.Yaml.Value

/-! YAML values as messages show them. A collection that is met inside itself is only hinted at. -/

namespace LayoutInheritance.Yaml

namespace Timestamp

/-- A number with leading zeros. -/
def padded (width n : Nat) : String :=
  let digits := toString n
  String.ofList (List.replicate (width - digits.length) '0') ++ digits

/-- The standard form of a date or a date with its time, which `between` keeps apart. -/
def standard (between : String) (t : Timestamp) : String :=
  let date := padded 4 t.year ++ "-" ++ padded 2 t.month ++ "-" ++ padded 2 t.day
  match t.time with
  | none => date
  | some { hour, minute, second, fraction, zone } =>
    let zone := match zone with
      | some z => (if z < 0 then "-" else "+") ++ padded 2 (z.natAbs / 60) ++ ":" ++ padded 2 (z.natAbs % 60)
      | none => ""
    date ++ between ++ padded 2 hour ++ ":" ++ padded 2 minute ++ ":" ++ padded 2 second
      ++ (if fraction = 0 then "" else "." ++ padded 6 fraction) ++ zone

def zoneText (minutes : Int) : String :=
  if minutes = 0 then "datetime.timezone.utc"
  else "datetime.timezone(" ++ durationText minutes ++ ")"

/-- Seconds are left out when they and what follows them are zero. -/
def shown (t : Timestamp) : String :=
  let date := [toString t.year, toString t.month, toString t.day]
  match t.time with
  | none => "datetime.date(" ++ ", ".intercalate date ++ ")"
  | some { hour, minute, second, fraction, zone } =>
    let seconds := if fraction ≠ 0 then [toString second, toString fraction]
      else if second ≠ 0 then [toString second] else []
    let zone := match zone with
      | some z => ["tzinfo=" ++ zoneText z]
      | none => []
    "datetime.datetime(" ++ ", ".intercalate (date ++ [toString hour, toString minute] ++ seconds ++ zone)
      ++ ")"

end Timestamp

namespace Value

/-- Bytes as a quoted text, each byte beyond the printable ASCII characters as an escape. -/
def bytesShown (bs : List UInt8) : String :=
  let cs := bs.map fun b => Char.ofNat b.toNat
  let quote := Text.quoteFor cs
  let one (c : Char) : List Char :=
    if c.toNat < 0x80 then Text.quotedChar quote c else Text.codePointEscape c.toNat
  String.ofList ('b' :: quote :: cs.flatMap one ++ [quote])

/-- How numbers are named that are none. -/
def floatNames : Decimal.SpecialNames := ⟨"nan", "inf"⟩

/-- A value that is no collection. -/
def shown : Value → String
  | null => "None"
  | bool b => if b then "True" else "False"
  | int n => toString n
  | float x => Decimal.floatText floatNames x
  | notANumber _ => floatNames.notANumber
  | text s => Text.quoted s
  | timestamp t => t.shown
  | bytes bs => bytesShown bs
  | collection _ => ""

/-- A text as it is, a timestamp in its standard form, any other value as it is shown. -/
def plainText : Value → String
  | text s => s
  | timestamp t => t.standard " "
  | v => v.shown

end Value

namespace Collection

/-- A collection, given how the values in it are shown. -/
def shown (value : Value → String) : Collection → String
  | list items => "[" ++ ", ".intercalate (items.map value) ++ "]"
  | map entries =>
    "\x7b" ++ ", ".intercalate (entries.map fun e => value e.1 ++ ": " ++ value e.2) ++ "\x7d"
  | set items => if items.isEmpty then "set()" else "\x7b" ++ ", ".intercalate (items.map value) ++ "\x7d"
  | pairs entries =>
    "[" ++ ", ".intercalate (entries.map fun e => "(" ++ value e.1 ++ ", " ++ value e.2 ++ ")") ++ "]"

/-- What stands for a collection inside itself. -/
def hint : Collection → String
  | list _ | pairs _ => "[...]"
  | map _ => "\x7b...\x7d"
  | set _ => "set(...)"

end Collection

namespace Document

/-- A value that stands inside the collections `around`. No more of them are around each other than there
are, which is when the bound is met. -/
def shownWithin (d : Document) : (bound : Nat) → (around : List Nat) → Value → String
  | bound + 1, around, .collection number =>
    match d.collections[number]? with
    | some c => if around.contains number then c.hint else c.shown (d.shownWithin bound (number :: around))
    | none => ""
  | _, _, v => v.shown

def shown (d : Document) (v : Value) : String :=
  d.shownWithin (d.collections.size + 1) [] v

end Document

end LayoutInheritance.Yaml
