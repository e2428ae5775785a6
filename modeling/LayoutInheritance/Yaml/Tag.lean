import LayoutInheritance.Yaml.Timestamp

/-! The tags of YAML nodes, and the tag that an untagged plain scalar has by its form. -/

namespace LayoutInheritance.Yaml

inductive Tag where
  | null | bool | int | float | text | timestamp | binary
  | sequence | mapping | set | orderedMap | pairs
  /-- The key of a merge, the key of a default value, and what stands for a mark of the grammar. -/
  | merge | default | mark
  | other (name : String)
  deriving DecidableEq

namespace Tag

def commonPart : String := "tag:yaml.org,2002:"

def commonNames : List (String × Tag) :=
  [("null", null), ("bool", bool), ("int", int), ("float", float), ("str", text),
   ("timestamp", timestamp), ("binary", binary), ("seq", sequence), ("map", mapping), ("set", set),
   ("omap", orderedMap), ("pairs", pairs), ("merge", merge), ("value", default), ("yaml", mark)]

def ofName (name : String) : Tag :=
  match commonNames.find? fun n => commonPart ++ n.1 == name with
  | some n => n.2
  | none => other name

/-! ### Forms of plain scalars -/

def nulls : List String := ["~", "null", "Null", "NULL", ""]

def trues : List String := ["yes", "Yes", "YES", "true", "True", "TRUE", "on", "On", "ON"]

def falses : List String := ["no", "No", "NO", "false", "False", "FALSE", "off", "Off", "OFF"]

def unsigned : List Char → List Char
  | '+' :: cs | '-' :: cs => cs
  | cs => cs

def isDigitOrGap (c : Char) : Bool :=
  c.isDigit || c == '_'

/-- Pieces after colons, each a number below sixty. -/
def isSixtieths : List Char → Bool
  | ':' :: a :: ':' :: cs => a.isDigit && isSixtieths (':' :: cs)
  | [':', a] => a.isDigit
  | ':' :: a :: b :: cs => '0' ≤ a && a ≤ '5' && b.isDigit && (cs.isEmpty || isSixtieths cs)
  | _ => false

def isInt (s : List Char) : Bool :=
  match unsigned s with
  | '0' :: 'b' :: cs => !cs.isEmpty && cs.all fun c => c == '0' || c == '1' || c == '_'
  | '0' :: 'x' :: cs => !cs.isEmpty && cs.all fun c => Text.isHexDigit c || c == '_'
  | ['0'] => true
  | '0' :: cs => cs.all fun c => ('0' ≤ c && c ≤ '7') || c == '_'
  | c :: cs =>
    let rest := cs.dropWhile isDigitOrGap
    c.isDigit && (rest.isEmpty || isSixtieths rest)
  | [] => false

/-- An exponent, which always has a sign, or nothing. -/
def isExponent : List Char → Bool
  | [] => true
  | e :: sign :: cs =>
    (e == 'e' || e == 'E') && (sign == '+' || sign == '-') && !cs.isEmpty && cs.all Char.isDigit
  | _ => false

def infinities : List String := [".inf", ".Inf", ".INF"]

def notNumbers : List String := [".nan", ".NaN", ".NAN"]

def isFloat (s : List Char) : Bool :=
  let fraction (cs : List Char) := cs.dropWhile isDigitOrGap
  let digits := unsigned s
  let whole := digits.takeWhile isDigitOrGap
  let afterWhole := digits.drop whole.length
  let sixtieths := afterWhole.takeWhile (· != '.')
  infinities.contains (String.ofList digits) || notNumbers.contains (String.ofList s)
    || (match s with
      | '.' :: c :: cs => c.isDigit && isExponent (fraction cs)
      | _ => false)
    || (whole.head?.any Char.isDigit &&
      (match afterWhole with
        | '.' :: cs => isExponent (fraction cs)
        | _ => false))
    || (whole.head?.any Char.isDigit && isSixtieths sixtieths &&
      (match afterWhole.drop sixtieths.length with
        | '.' :: cs => (fraction cs).isEmpty
        | _ => false))

def marks : List String := ["!", "&", "*"]

/-- The tag of a scalar by its form. A line feed at the end does not count, but is no null by itself. -/
def ofForm (text : String) : Tag :=
  let cs := Text.withoutLineFeed text.toList
  let s := String.ofList cs
  if trues.contains s || falses.contains s then bool
  else if isFloat cs then float
  else if isInt cs then int
  else if s == "<<" then merge
  else if nulls.contains s && text != "\n" then null
  else if Timestamp.isForm cs then timestamp
  else if s == "=" then default
  else if marks.contains s then mark
  else Tag.text

end Tag

end LayoutInheritance.Yaml
