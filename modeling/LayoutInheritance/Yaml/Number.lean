import LayoutInheritance.Decimal.Reading
import LayoutInheritance.Text.Hex
import LayoutInheritance.Text.Lowercase
import LayoutInheritance.Text.Quoted

/-! Numbers as the scalars of a YAML text write them: whole numbers in four bases, decimals, and both in
pieces of sixty. Underscores only divide digits and do not count. -/

namespace LayoutInheritance.Yaml.Number

/-- Why a text is no number. -/
inductive Fault where
  /-- Nothing is left where the number should begin. -/
  | empty
  | notWhole (base : Nat) (text : String)
  | tooManyDigits (count : Nat)
  | notDecimal (text : String)
  /-- The worth of the first piece is beyond all decimals. -/
  | tooManyPieces
  deriving DecidableEq

/-- The longest quotation of a text that is no whole number. -/
def longestQuotation : Nat := 200

def Fault.message : Fault → String
  | empty => "string index out of range"
  | notWhole base text =>
    "invalid literal for int() with base " ++ toString base ++ ": "
      ++ String.ofList ((Text.quoted text).toList.take longestQuotation)
  | tooManyDigits count => Decimal.overlongMessage count
  | notDecimal text => "could not convert string to float: " ++ Text.quoted text
  | tooManyPieces => "int too large to convert to float"

def withoutUnderscores (cs : List Char) : List Char :=
  cs.filter (· != '_')

/-- The sign of a number, and the rest. -/
def signed : List Char → Int × List Char
  | '-' :: rest => (-1, rest)
  | '+' :: rest => (1, rest)
  | cs => (1, cs)

/-- The pieces between colons. -/
def pieces : List Char → List (List Char)
  | [] => [[]]
  | c :: cs =>
    if c == ':' then [] :: pieces cs
    else match pieces cs with
      | [] => [[c]]
      | piece :: rest => (c :: piece) :: rest

/-- The blanks of ASCII without its separators. -/
def isPlainBlank (c : Char) : Bool :=
  c == ' ' || ('\t' ≤ c && c ≤ '\r')

/-- A text with the digits and the blanks of all scripts as those of ASCII, without blanks at either end.
Nothing when there is another character beyond ASCII. -/
def simplified? (cs : List Char) : Option (List Char) :=
  let simple? (c : Char) : Option Char :=
    if c.toNat < 0x80 then some c
    else if Text.isBlank c then some ' '
    else (Text.decimalValue? c).map Text.hexDigit
  (cs.mapM simple?).map fun cs => ((cs.dropWhile isPlainBlank).reverse.dropWhile isPlainBlank).reverse

/-! ### Whole numbers -/

def isDigitOf (base : Nat) (c : Char) : Bool :=
  (Text.hexValue? c).any (· < base)

/-- The letter that may follow a zero in front of the digits of a base. -/
def baseMark? (base : Nat) : Option Char :=
  [(2, 'b'), (8, 'o'), (16, 'x')].lookup base

/-- Digits without the mark of their base. -/
def withoutMark (base : Nat) : List Char → List Char
  | '0' :: c :: rest => if baseMark? base == some c.toLower then rest else '0' :: c :: rest
  | cs => cs

/-- A whole number in a base, with a sign of its own. -/
def whole (base : Nat) (cs : List Char) : Except Fault Int :=
  let fault := .notWhole base (String.ofList cs)
  match simplified? cs with
  | none => .error fault
  | some simple =>
    let (sign, digits) := signed simple
    let digits := withoutMark base digits
    let count := (digits.takeWhile (isDigitOf base)).length
    if base = 10 ∧ Decimal.mostDigits < count then .error (.tooManyDigits count)
    else if digits.isEmpty || count < digits.length then .error fault
    else .ok (sign * Text.ofDigits base digits)

/-- The value of a scalar that is to be a whole number. A zero in front makes it octal. -/
def wholeOfText (text : String) : Except Fault Int := do
  let cs := withoutUnderscores text.toList
  let (sign, cs) := signed cs
  let n ← match cs with
    | [] => throw .empty
    | ['0'] => pure 0
    | '0' :: 'b' :: digits => whole 2 digits
    | '0' :: 'x' :: digits => whole 16 digits
    | '0' :: _ => whole 8 cs
    | _ => do
      let ns ← (pieces cs).mapM (whole 10)
      pure (ns.foldl (fun n piece => n * 60 + piece) 0)
  return sign * n

/-! ### Decimals -/

/-- A decimal, with a sign of its own, or the name of infinity or of what is no number. -/
def decimal (cs : List Char) : Except Fault Float :=
  let fault := .notDecimal (String.ofList cs)
  match simplified? cs with
  | none => .error fault
  | some simple =>
    let (sign, rest) := signed simple
    match Decimal.read? rest with
    | none => .error fault
    | some x => .ok (if sign < 0 then -x else x)

/-- The most pieces that a decimal may have: the worth of the first one is a power of sixty. -/
def mostPieces : Nat := 174

/-- The sum of pieces, each worth sixty times the next. The last ones are added first. -/
def sixtieths (xs : List Float) : Float :=
  (xs.reverse.foldl (fun (sum, worth) x => (sum + x * Float.ofNat worth, worth * 60)) ((0 : Float), 1)).1

def notANumberName : String := ".nan"

def infinityName : String := ".inf"

/-- The value of a scalar that is to be a decimal. Nothing for the name of what is no number. -/
def decimalOfText (text : String) : Except Fault (Option Float) := do
  let cs := (Text.lower (String.ofList (withoutUnderscores text.toList))).toList
  if cs.isEmpty then throw .empty
  let (sign, cs) := signed cs
  if cs = notANumberName.toList then return none
  let x ← if cs = infinityName.toList then pure Decimal.infinity
    else if cs.contains ':' then do
      let xs ← (pieces cs).mapM decimal
      if mostPieces < xs.length then throw .tooManyPieces
      pure (sixtieths xs)
    else decimal cs
  return some (if sign < 0 then -x else x)

example : (wholeOfText "0o17").toOption = some 15 ∧ (wholeOfText " 1:30 ").toOption = some 90 := by
  decide +kernel

end LayoutInheritance.Yaml.Number
