/-! The shortest decimal that reads back as a given binary floating-point number. A number `m · 2 ^ q` is
what every real in an interval around it rounds to; the interval holds its ends when `m` is even. On the
grid of decimals with `n` digits the nearest points are the two neighbours of the number, so the first grid
that has a neighbour in the interval is the shortest. -/

namespace LayoutInheritance.Decimal

/-- A positive binary number: `mantissa · 2 ^ exponent`. -/
structure Binary where
  mantissa : Nat
  exponent : Int
  deriving DecidableEq

/-- A positive decimal: `coefficient · 10 ^ exponent`. -/
structure Numeral where
  coefficient : Nat
  exponent : Int
  deriving DecidableEq

/-- A positive fraction. -/
structure Ratio where
  num : Nat
  den : Nat

def Ratio.le (a b : Ratio) : Bool :=
  a.num * b.den ≤ b.num * a.den

def Ratio.lt (a b : Ratio) : Bool :=
  a.num * b.den < b.num * a.den

/-- `num · 2 ^ e`. -/
def Ratio.binary (num : Nat) (e : Int) : Ratio :=
  if 0 ≤ e then ⟨num * Nat.pow 2 e.toNat, 1⟩ else ⟨num, Nat.pow 2 (-e).toNat⟩

/-- `num · 10 ^ e`. -/
def Ratio.decimal (num : Nat) (e : Int) : Ratio :=
  if 0 ≤ e then ⟨num * Nat.pow 10 e.toNat, 1⟩ else ⟨num, Nat.pow 10 (-e).toNat⟩

/-- The least normal mantissa. -/
def leastMantissa : Nat := Nat.pow 2 52

def leastExponent : Int := -1074

namespace Binary

def value (b : Binary) : Ratio :=
  Ratio.binary b.mantissa b.exponent

/-- The number half way to the one above. -/
def upper (b : Binary) : Ratio :=
  Ratio.binary (2 * b.mantissa + 1) (b.exponent - 1)

/-- The number half way to the one below, which is nearer where the exponent changes. -/
def lower (b : Binary) : Ratio :=
  if b.mantissa = leastMantissa ∧ leastExponent < b.exponent then
    Ratio.binary (4 * b.mantissa - 1) (b.exponent - 2)
  else Ratio.binary (2 * b.mantissa - 1) (b.exponent - 1)

/-- Whether a real rounds to `b`. -/
def roundsTo (b : Binary) (r : Ratio) : Bool :=
  if b.mantissa % 2 = 0 then b.lower.le r && r.le b.upper else b.lower.lt r && r.lt b.upper

/-- The number of digits before the point; at most zero for numbers below one tenth. -/
def point (b : Binary) : Int :=
  let v := b.value
  -- The estimate from the bit length is exact or one too small.
  let bits : Int := (b.mantissa.log2 : Int) + b.exponent
  let estimate : Int := bits * 30103 / 100000
  let candidates := [estimate - 1, estimate, estimate + 1, estimate + 2]
  (candidates.find? fun p => v.lt (Ratio.decimal 1 p)).getD (estimate + 3)

/-- The multiple of `10 ^ unit` next to `b` that rounds to it; of two the nearer, and of two as near the
even one. -/
def onGrid? (b : Binary) (unit : Int) : Option Numeral :=
  let v := b.value
  let scaled : Ratio := if 0 ≤ unit then ⟨v.num, v.den * Nat.pow 10 unit.toNat⟩
    else ⟨v.num * Nat.pow 10 (-unit).toNat, v.den⟩
  let below := scaled.num / scaled.den
  let good (k : Nat) : Bool := k != 0 && b.roundsTo (Ratio.decimal k unit)
  -- Twice the distance from the lower neighbour, compared with one step.
  let rest : Nat := 2 * (scaled.num % scaled.den)
  let lowerFirst := rest < scaled.den || (rest == scaled.den && below % 2 == 0)
  match good below, good (below + 1) with
  | true, true => some ⟨if lowerFirst then below else below + 1, unit⟩
  | true, false => some ⟨below, unit⟩
  | false, true => some ⟨below + 1, unit⟩
  | false, false => none

/-- The shortest decimal among those with `n` to `n + more` digits. -/
def shortestFrom (b : Binary) (point : Int) (n : Nat) : (more : Nat) → Option Numeral
  | 0 => b.onGrid? (point - n)
  | more + 1 =>
    match b.onGrid? (point - n) with
    | some d => some d
    | none => shortestFrom b point (n + 1) more

/-- Seventeen digits are always enough. -/
def shortest (b : Binary) : Numeral :=
  (b.shortestFrom b.point 1 16).getD ⟨0, 0⟩

end Binary

/-- The positive number that the bits of a finite float write, without their sign. -/
def ofBits (bits : UInt64) : Binary :=
  let fraction : Nat := bits.toNat % leastMantissa
  let biased : Nat := bits.toNat / leastMantissa % 2048
  if biased = 0 then ⟨fraction, leastExponent⟩ else ⟨leastMantissa + fraction, (biased : Int) - 1075⟩

example : (ofBits 0x3fb999999999999a).shortest = ⟨1, -1⟩ := by decide +kernel
example : (ofBits 1).shortest = ⟨5, -324⟩ := by decide +kernel

end LayoutInheritance.Decimal
