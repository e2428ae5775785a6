import LayoutInheritance.Encoding.ByteOrder

/-! UTF-16 in either byte order. -/

namespace LayoutInheritance.Utf16

def name (order : ByteOrder) : String :=
  "utf-16" ++ order.suffix

def isHigh (u : Nat) : Bool :=
  0xd800 ≤ u && u ≤ 0xdbff

def isLow (u : Nat) : Bool :=
  0xdc00 ≤ u && u ≤ 0xdfff

/-- Decodes from a place of the whole on. -/
def decodeFrom (order : ByteOrder) (place : Nat) : List UInt8 → Except DecodeFault (List Char)
  | [] => .ok []
  | [a] => .error ⟨name order, a, place, place + 1, "truncated data"⟩
  | a :: b :: rest =>
    let u := order.unit [a, b]
    if isHigh u then
      match rest with
      | c :: d :: rest =>
        let v := order.unit [c, d]
        if isLow v then
          (decodeFrom order (place + 4) rest).map
            (Char.ofNat (0x10000 + (u - 0xd800) * 1024 + (v - 0xdc00)) :: ·)
        else .error ⟨name order, a, place, place + 2, "illegal UTF-16 surrogate"⟩
      | short => .error ⟨name order, a, place, place + 2 + short.length, "unexpected end of data"⟩
    else if isLow u then .error ⟨name order, a, place, place + 2, "illegal encoding"⟩
    else (decodeFrom order (place + 2) rest).map (Char.ofNat u :: ·)

def mark : List UInt8 := [0xff, 0xfe]

def decodeMarked (bytes : List UInt8) : Except FileFault (List Char) :=
  ByteOrder.decodeMarked "UTF-16" mark decodeFrom bytes

end LayoutInheritance.Utf16
