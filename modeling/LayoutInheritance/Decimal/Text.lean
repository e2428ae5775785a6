import LayoutInheritance.Decimal.Shortest

/-! Floating-point numbers as text: the shortest decimal that reads back, with a fraction always written,
and with an exponent only far away from one. -/

namespace LayoutInheritance.Decimal

/-- Where the point of a number may stand for it to be written without an exponent. -/
def isPositional (point : Int) : Bool :=
  -4 < point && point ≤ 16

def zeros (n : Nat) : String :=
  String.ofList (List.replicate n '0')

/-- The exponent, signed, with two digits at least. -/
def exponentText (e : Int) : String :=
  let digits := toString e.natAbs
  "e" ++ (if e < 0 then "-" else "+") ++ (if digits.length < 2 then "0" else "") ++ digits

/-- Digits without the zeros at their end. -/
def trimmed (digits : List Char) : List Char :=
  (digits.reverse.dropWhile (· == '0')).reverse

/-- A positive decimal. -/
def Numeral.text (d : Numeral) : String :=
  let written := (toString d.coefficient).toList
  let digits := trimmed written
  let point : Int := written.length + d.exponent
  if isPositional point then
    if point ≤ 0 then "0." ++ zeros (-point).toNat ++ String.ofList digits
    else
      let whole := digits.take point.toNat
      let fraction := digits.drop point.toNat
      String.ofList whole ++ zeros (point.toNat - whole.length) ++ "."
        ++ (if fraction.isEmpty then "0" else String.ofList fraction)
  else
    match digits with
    | [] => "0"
    | first :: rest =>
      String.ofList [first] ++ (if rest.isEmpty then "" else "." ++ String.ofList rest)
        ++ exponentText (point - 1)

/-- The words for what is no number, and for infinity. -/
structure SpecialNames where
  notANumber : String
  infinity : String

/-- The text of a floating-point number. -/
def floatText (names : SpecialNames) (x : Float) : String :=
  let sign := if x.toBits ≥ 0x8000000000000000 then "-" else ""
  if x.isNaN then names.notANumber
  else if x.isInf then sign ++ names.infinity
  else if x == 0 then sign ++ "0.0"
  else sign ++ (ofBits x.toBits).shortest.text

end LayoutInheritance.Decimal
