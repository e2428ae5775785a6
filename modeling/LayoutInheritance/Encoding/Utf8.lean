import LayoutInheritance.Disk.Fault

/-! UTF-8, read strictly: no longer form than needed, no surrogate, nothing beyond the last code point.
A bad sequence is reported up to the byte where it goes wrong. -/

namespace LayoutInheritance.Utf8

/-- A sequence that is bad after `length` bytes. -/
structure BadSequence where
  length : Nat
  reason : String

/-- Continues a sequence of which `seen` bytes gave `value`. The next byte lies between `low` and `high`,
the others anywhere among the continuation bytes. -/
def continued (value seen low high : Nat) : (missing : Nat) → List UInt8 → Except BadSequence (Char × Nat)
  | 0, _ => .ok (Char.ofNat value, seen)
  | _ + 1, [] => .error ⟨seen, "unexpected end of data"⟩
  | missing + 1, b :: rest =>
    if low ≤ b.toNat ∧ b.toNat ≤ high then
      continued (value * 64 + b.toNat % 64) (seen + 1) 0x80 0xbf missing rest
    else .error ⟨seen, "invalid continuation byte"⟩

/-- The character that begins with byte `b`, and how many bytes it takes. -/
def sequence (b : UInt8) (rest : List UInt8) : Except BadSequence (Char × Nat) :=
  let n := b.toNat
  if n < 0x80 then .ok (Char.ofNat n, 1)
  else if 0xc2 ≤ n ∧ n ≤ 0xdf then continued (n % 32) 1 0x80 0xbf 1 rest
  else if 0xe0 ≤ n ∧ n ≤ 0xef then
    continued (n % 16) 1 (if n = 0xe0 then 0xa0 else 0x80) (if n = 0xed then 0x9f else 0xbf) 2 rest
  else if 0xf0 ≤ n ∧ n ≤ 0xf4 then
    continued (n % 8) 1 (if n = 0xf0 then 0x90 else 0x80) (if n = 0xf4 then 0x8f else 0xbf) 3 rest
  else .error ⟨1, "invalid start byte"⟩

/-- Decodes from a place of the whole on, after `owed` bytes of the last character. -/
def decodeFrom (place : Nat) : (owed : Nat) → List UInt8 → Except DecodeFault (List Char)
  | _, [] => .ok []
  | owed + 1, _ :: bs => decodeFrom (place + 1) owed bs
  | 0, b :: bs =>
    match sequence b bs with
    | .error bad => .error ⟨"utf-8", b, place, place + bad.length, bad.reason⟩
    | .ok (c, length) => (decodeFrom (place + 1) (length - 1) bs).map (c :: ·)

def decode (bytes : List UInt8) : Except DecodeFault (List Char) :=
  decodeFrom 0 0 bytes

def byte (n : Nat) : UInt8 :=
  UInt8.ofNat n

def encodeChar (c : Char) : List UInt8 :=
  let n := c.toNat
  if n < 0x80 then [byte n]
  else if n < 0x800 then [byte (0xc0 + n / 64), byte (0x80 + n % 64)]
  else if n < 0x10000 then [byte (0xe0 + n / 4096), byte (0x80 + n / 64 % 64), byte (0x80 + n % 64)]
  else
    [byte (0xf0 + n / 262144), byte (0x80 + n / 4096 % 64), byte (0x80 + n / 64 % 64),
      byte (0x80 + n % 64)]

def encode (cs : List Char) : List UInt8 :=
  cs.flatMap encodeChar

/-- The mark that some files begin with. -/
def mark : List UInt8 := [0xef, 0xbb, 0xbf]

/-- Decodes without the mark, if there is one. A text that ends within the mark is empty, and places are
counted from the end of the mark. -/
def decodeMarked (bytes : List UInt8) : Except DecodeFault (List Char) :=
  if bytes.length < mark.length && bytes.isPrefixOf mark then .ok []
  else if mark.isPrefixOf bytes then decode (bytes.drop mark.length)
  else decode bytes

end LayoutInheritance.Utf8
