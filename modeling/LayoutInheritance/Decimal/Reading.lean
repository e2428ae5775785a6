import LayoutInheritance.Text.Hex

/-! Decimals read from text. The number is the nearest floating-point number; one that is too large is
infinity. Whole numbers have a limit of their own. -/

namespace LayoutInheritance.Decimal

/-- The most decimal digits that a whole number may have. -/
def mostDigits : Nat := 4300

def overlongMessage (count : Nat) : String :=
  "Exceeds the limit (" ++ toString mostDigits ++ " digits) for integer string conversion: value has "
    ++ toString count ++ " digits; use sys.set_int_max_str_digits() to increase the limit"

def infinity : Float := 1.0 / 0.0

def notANumber : Float := 0.0 / 0.0

/-- Decimals with this many digits before the point are infinite. -/
def infiniteFrom : Int := 310

/-- Decimals with this many zeros after the point, before any digit, are zero. -/
def zeroFrom : Int := 324

/-- The number that digits write, `shift` places further to the left. -/
def ofDigits (digits : List Char) (shift : Int) : Float :=
  let digits := digits.dropWhile (· == '0')
  let point : Int := digits.length + shift
  if digits.isEmpty || point ≤ -zeroFrom then 0.0
  else if infiniteFrom ≤ point then infinity
  else
    let mantissa := Text.ofDigits 10 digits
    if shift < 0 then Float.ofScientific mantissa true (-shift).toNat
    else Float.ofScientific mantissa false shift.toNat

/-- An exponent, which may have a sign; nothing counts as zero. -/
def exponent? : List Char → Option Int
  | [] => some 0
  | e :: rest =>
    let (negative, digits) := match rest with
      | '-' :: digits => (true, digits)
      | '+' :: digits => (false, digits)
      | _ => (false, rest)
    if e.toLower != 'e' || digits.isEmpty || !(digits.all Char.isDigit) then none
    else
      let n : Int := Text.ofDigits 10 digits
      some (if negative then -n else n)

/-- A decimal without a sign: digits on at least one side of a point, which may be missing, and perhaps an
exponent. -/
def readDigits? (cs : List Char) : Option Float :=
  let whole := cs.takeWhile Char.isDigit
  let rest := cs.drop whole.length
  let (fraction, rest) := match rest with
    | '.' :: r => (r.takeWhile Char.isDigit, r.dropWhile Char.isDigit)
    | _ => ([], rest)
  if whole.isEmpty && fraction.isEmpty then none
  else (exponent? rest).map fun e => ofDigits (whole ++ fraction) (e - fraction.length)

/-- A decimal without a sign, or a name. The case of letters does not count. -/
def read? (cs : List Char) : Option Float :=
  let small := String.ofList (cs.map Char.toLower)
  if small = "inf" ∨ small = "infinity" then some infinity
  else if small = "nan" then some notANumber
  else readDigits? cs

end LayoutInheritance.Decimal
