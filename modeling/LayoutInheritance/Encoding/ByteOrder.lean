import LayoutInheritance.Disk.Fault

/-! Encodings of more than one byte a unit, in either order of bytes. -/

namespace LayoutInheritance

inductive ByteOrder where
  | little | big
  deriving DecidableEq

namespace ByteOrder

/-- What the name of an encoding in this order ends in. -/
def suffix : ByteOrder → String
  | little => "-le"
  | big => "-be"

/-- The number that the bytes of a unit make. -/
def unit (order : ByteOrder) (bytes : List UInt8) : Nat :=
  let bytes := match order with
    | little => bytes.reverse
    | big => bytes
  bytes.foldl (fun n b => n * 256 + b.toNat) 0

/-- Decodes a stream that says its byte order by the mark that it begins with; `mark` is the one of the
little order, and the other one is the same backwards. A stream without the mark is refused, once it has
been read as if in little order; nothing at all is empty. -/
def decodeMarked (name : String) (mark : List UInt8)
    (decode : ByteOrder → Nat → List UInt8 → Except DecodeFault (List Char)) (bytes : List UInt8) :
    Except FileFault (List Char) :=
  if mark <+: bytes then (decode .little mark.length (bytes.drop mark.length)).mapError .undecodable
  else if mark.reverse <+: bytes then
    (decode .big mark.length (bytes.drop mark.length)).mapError .undecodable
  else match decode .little 0 bytes with
    | .error fault => .error (.undecodable fault)
    | .ok [] => .ok []
    | .ok _ => .error (.noByteOrderMark name)

end ByteOrder

end LayoutInheritance
