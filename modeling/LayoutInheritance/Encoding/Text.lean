import LayoutInheritance.Encoding.Basic
import LayoutInheritance.Encoding.Utf16
import LayoutInheritance.Encoding.Utf32
import LayoutInheritance.Encoding.Utf8

/-! Texts as bytes in the encodings that files are read in. -/

namespace LayoutInheritance

/-- Decodes byte by byte; a byte that has no character is named with its place. -/
def decodeBytes (encoding reason : String) (char? : UInt8 → Option Char) (place : Nat) :
    List UInt8 → Except DecodeFault (List Char)
  | [] => .ok []
  | b :: bs =>
    match char? b with
    | none => .error ⟨encoding, b, place, place + 1, reason⟩
    | some c => (decodeBytes encoding reason char? (place + 1) bs).map (c :: ·)

def asciiChar? (b : UInt8) : Option Char :=
  if b.toNat < 0x80 then some (Char.ofNat b.toNat) else none

/-- The character of a byte, in a table with the noncharacter U+FFFE for bytes that have none. -/
def tableChar? (table : String) (b : UInt8) : Option Char :=
  table.toList[b.toNat]?.filter (· != '\ufffe')

/-- Why a decoder outside refuses bytes. -/
inductive Codecs.Fault where
  | undecodable (fault : DecodeFault)
  /-- A complaint about the text that names no bytes. -/
  | complaint (message : String)

/-- The decoders that lie outside, by what their encodings are called by themselves: those with large
tables, with states between bytes, or with names of characters. -/
structure Codecs where
  decode : (name : String) → List UInt8 → Except Codecs.Fault (List Char)

/-- No decoder at all. -/
def Codecs.none : Codecs where
  decode name _ := .error (.complaint ("no decoder for " ++ name))

namespace Encoding

/-- The text that bytes stand for. `name` is how the encoding was asked for. -/
def decode (codecs : Codecs) (e : Encoding) (name : String) (bytes : List UInt8) :
    Except FileFault (List Char) :=
  match e with
  | .utf8 => (Utf8.decode bytes).mapError .undecodable
  | .utf8Marked => (Utf8.decodeMarked bytes).mapError .undecodable
  | .utf16 => Utf16.decodeMarked bytes
  | .utf16Little => (Utf16.decodeFrom .little 0 bytes).mapError .undecodable
  | .utf16Big => (Utf16.decodeFrom .big 0 bytes).mapError .undecodable
  | .utf32 => Utf32.decodeMarked bytes
  | .utf32Little => (Utf32.decodeFrom .little 0 bytes).mapError .undecodable
  | .utf32Big => (Utf32.decodeFrom .big 0 bytes).mapError .undecodable
  | .ascii =>
    (decodeBytes "ascii" "ordinal not in range(128)" asciiChar? 0 bytes).mapError .undecodable
  | .latin1 => .ok (bytes.map fun b => Char.ofNat b.toNat)
  | .charmap table =>
    (decodeBytes "charmap" "character maps to <undefined>" (tableChar? table) 0 bytes).mapError
      .undecodable
  | .foreign own => (codecs.decode own bytes).mapError fun
    | .undecodable fault => .undecodable fault
    | .complaint message => .complaint message
  | .hex | .rot13 | .base64 | .quotedPrintable | .uu | .zlib | .bzip => .error (.notTextEncoding name)

/-- Decodes bytes in a named encoding. -/
def decodeNamed (codecs : Codecs) (name : String) (bytes : List UInt8) : Except FileFault (List Char) :=
  match ofName? name with
  | some e => e.decode codecs name bytes
  | none => .error (.unknownEncoding name)

end Encoding

end LayoutInheritance
