import LayoutInheritance.Command.Flag
import LayoutInheritance.Text.CharacterClass

/-! The words of a command line, each read by itself. A word that begins with a dash is a flag. A long flag
may be cut short, as long as it stays unique, and may hold its value after an equals sign; a short one may
be followed by its value, or by more short flags. After two dashes alone no word is a flag. -/

namespace LayoutInheritance

inductive Word where
  | plain (text : String)
  /-- Two dashes, which end the flags. -/
  | dashes
  | flag (text : String) (flag : Flag) (short : Bool) (value? : Option (List Char))
  /-- A word that would be a flag, but is none of the known ones. -/
  | unknown (text : String)
  deriving DecidableEq

namespace Word

def text : Word → String
  | plain text | flag text .. | unknown text => text
  | dashes => "--"

/-- What stands before the first equals sign, and what after it. -/
def splitValue (cs : List Char) : List Char × Option (List Char) :=
  match cs.dropWhile (· ≠ '=') with
  | [] => (cs, none)
  | _ :: value => (cs.takeWhile (· ≠ '='), some value)

def isLong : List Char → Bool
  | '-' :: '-' :: _ => true
  | _ => false

/-- A negative number, which is no flag. One line feed may follow it. -/
def isNegativeNumber (cs : List Char) : Bool :=
  match (if cs.getLast? = some '\n' then cs.dropLast else cs) with
  | '-' :: number =>
    match number.dropWhile Text.isDecimalDigit with
    | [] => !number.isEmpty
    | '.' :: fraction => !fraction.isEmpty && fraction.all Text.isDecimalDigit
    | _ => false
  | _ => false

/-- The flags that a word, spelled in full by none of them, may stand for, by their spellings. -/
def candidates (flags : List Flag) (text : String) : List (String × Word) :=
  let cs := text.toList
  if isLong cs then
    let (start, value?) := splitValue cs
    (Flag.spelled flags).filterMap fun s =>
      if start.isPrefixOf s.1.toList then some (s.1, flag text s.2 false value?) else none
  else
    (Flag.spelled flags).filterMap fun s =>
      if s.1.toList = cs.take 2 then some (s.1, flag text s.2 true (some (cs.drop 2))) else none

/-- Whether a word that begins with a dash is spelled like a flag at all. -/
def isFlagLike (cs : List Char) : Bool :=
  !isNegativeNumber cs && !cs.contains ' '

/-- Reads one word other than two dashes. -/
def ofText (flags : List Flag) (text : String) : Except UsageFault Word :=
  let cs := text.toList
  let known (cs : List Char) : Option Flag := (Flag.spelled flags).lookup (String.ofList cs)
  if cs.head? ≠ some '-' then .ok (plain text)
  else
    let (start, value?) := splitValue cs
    match known cs, (if value?.isSome then known start else none) with
    | some f, _ => .ok (flag text f (!isLong cs) none)
    | none, some f => .ok (flag text f (!isLong cs) value?)
    | none, none =>
      if cs.length = 1 then .ok (plain text)
      else match candidates flags text with
        | [] => if isFlagLike cs then .ok (unknown text) else .ok (plain text)
        | [(_, word)] => .ok word
        | several => .error (.ambiguous text (several.map Prod.fst))

/-- Reads all words. -/
def ofTexts (flags : List Flag) : List String → Except UsageFault (List Word)
  | [] => .ok []
  | text :: rest =>
    if text = "--" then .ok (dashes :: rest.map plain)
    else do
      let word ← ofText flags text
      let words ← ofTexts flags rest
      return word :: words

end Word

end LayoutInheritance
