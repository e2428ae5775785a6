import LayoutInheritance.Encoding.ByteOrder

/-! UTF-32 in either byte order. -/

namespace LayoutInheritance.Utf32

def name (order : ByteOrder) : String :=
  "utf-32" ++ order.suffix

/-- Decodes from a place of the whole on. -/
def decodeFrom (order : ByteOrder) (place : Nat) : List UInt8 → Except DecodeFault (List Char)
  | [] => .ok []
  | a :: b :: c :: d :: rest =>
    let u := order.unit [a, b, c, d]
    if 0xd800 ≤ u ∧ u < 0xe000 then
      .error ⟨name order, a, place, place + 4,
        "code point in surrogate code point range(0xd800, 0xe000)"⟩
    else if 0x110000 ≤ u then
      .error ⟨name order, a, place, place + 4, "code point not in range(0x110000)"⟩
    else (decodeFrom order (place + 4) rest).map (Char.ofNat u :: ·)
  | a :: short => .error ⟨name order, a, place, place + 1 + short.length, "truncated data"⟩

def mark : List UInt8 := [0xff, 0xfe, 0, 0]

def decodeMarked (bytes : List UInt8) : Except FileFault (List Char) :=
  ByteOrder.decodeMarked "UTF-32" mark decodeFrom bytes

end LayoutInheritance.Utf32
