/-! Bytes written with sixty-four digits, four digits for three bytes. Characters that are no digits are
passed over, and an equals sign stands for a digit that is missing at the end. Only ASCII text is read. -/

namespace LayoutInheritance.Text

/-- The six bits of a digit. -/
def base64Value? (c : Char) : Option Nat :=
  if 'A' ≤ c ∧ c ≤ 'Z' then some (c.toNat - 65)
  else if 'a' ≤ c ∧ c ≤ 'z' then some (c.toNat - 71)
  else if c.isDigit then some (c.toNat + 4)
  else if c == '+' then some 62
  else if c == '/' then some 63
  else none

/-- The bytes of the digits from one on that is at `place` among its four. `left` are the bits that the
digits before it leave over, and `missing` counts the equals signs since the last of them. Once they fill
the four, the rest of the text does not count; a text that ends before that is refused. -/
def base64From (place left missing : Nat) : List Char → Option (List UInt8)
  | [] => if place = 0 then some [] else none
  | c :: cs =>
    if c == '=' then
      if place < 2 then base64From place left missing cs
      else if 4 ≤ place + missing + 1 then some []
      else base64From place left (missing + 1) cs
    else match base64Value? c with
      | none => base64From place left missing cs
      | some v =>
        if place = 0 then base64From 1 v 0 cs
        else
          let unit := Nat.pow 4 (3 - place)
          let byte := UInt8.ofNat (left * Nat.pow 4 place + v / unit)
          (base64From ((place + 1) % 4) (v % unit) 0 cs).map (byte :: ·)

/-- The bytes that a text writes. -/
def base64? (cs : List Char) : Option (List UInt8) :=
  if cs.all fun c => c.toNat < 0x80 then base64From 0 0 0 cs else none

example : base64? "YWI=".toList = some [97, 98] ∧ base64? "YW\nJj".toList = some [97, 98, 99] := by
  decide +kernel
example : base64? "YQ".toList = none ∧ base64? "YQ==YQ".toList = some [97] := by decide +kernel

end LayoutInheritance.Text
