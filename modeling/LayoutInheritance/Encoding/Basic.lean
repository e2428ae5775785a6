import LayoutInheritance.Encoding.Charmaps
import LayoutInheritance.Encoding.Names

/-! Encodings and their names. A name is compared by its ASCII letters, digits and points; whatever
stands between them counts as one separator. -/

namespace LayoutInheritance

inductive Encoding where
  | utf8 | utf8Marked | utf16 | utf16Little | utf16Big | utf32 | utf32Little | utf32Big | ascii | latin1
  /-- An encoding with a character for each byte. -/
  | charmap (table : String)
  /-- An encoding whose decoder lies outside, by what it is called by itself. -/
  | foreign (name : String)
  /-- Known encodings that do not turn bytes into text. -/
  | hex | rot13 | base64 | quotedPrintable | uu | zlib | bzip
  deriving DecidableEq

namespace Encoding

/-- The names without a point, and the encodings that they stand for. -/
def plainNames : List (String × Encoding) :=
  [("utf_8", .utf8), ("u8", .utf8), ("utf", .utf8), ("utf8", .utf8), ("utf8_ucs2", .utf8),
   ("utf8_ucs4", .utf8), ("cp65001", .utf8),
   ("utf_8_sig", .utf8Marked),
   ("utf_16", .utf16), ("u16", .utf16), ("utf16", .utf16),
   ("utf_16_le", .utf16Little), ("utf_16le", .utf16Little), ("unicodelittleunmarked", .utf16Little),
   ("utf_16_be", .utf16Big), ("utf_16be", .utf16Big), ("unicodebigunmarked", .utf16Big),
   ("utf_32", .utf32), ("u32", .utf32), ("utf32", .utf32),
   ("utf_32_le", .utf32Little), ("utf_32le", .utf32Little),
   ("utf_32_be", .utf32Big), ("utf_32be", .utf32Big),
   ("ascii", .ascii), ("646", .ascii), ("ansi_x3_4_1968", .ascii), ("cp367", .ascii),
   ("csascii", .ascii), ("ibm367", .ascii), ("iso646_us", .ascii), ("iso_ir_6", .ascii),
   ("us", .ascii), ("us_ascii", .ascii),
   ("latin_1", .latin1), ("iso8859_1", .latin1), ("8859", .latin1), ("cp819", .latin1),
   ("csisolatin1", .latin1), ("ibm819", .latin1), ("iso8859", .latin1), ("iso_8859_1", .latin1),
   ("iso_8859_1_1987", .latin1), ("iso_ir_100", .latin1), ("l1", .latin1), ("latin", .latin1),
   ("latin1", .latin1), ("charmap", .latin1),
   ("hex_codec", .hex), ("hex", .hex), ("rot_13", .rot13), ("rot13", .rot13),
   ("base64_codec", .base64), ("base64", .base64), ("base_64", .base64),
   ("quopri_codec", .quotedPrintable), ("quopri", .quotedPrintable),
   ("quoted_printable", .quotedPrintable), ("quotedprintable", .quotedPrintable),
   ("uu_codec", .uu), ("uu", .uu), ("zlib_codec", .zlib), ("zip", .zlib), ("zlib", .zlib),
   ("bz2_codec", .bzip), ("bz2", .bzip)]

/-- The names that keep a point. -/
def pointedNames : List (String × Encoding) :=
  [("ansi_x3.4_1968", .ascii), ("ansi_x3.4_1986", .ascii), ("iso_646.irv_1991", .ascii)]

/-- What each of these encodings is called by itself; a point may not stand for an underscore here. -/
def ownNames : List String :=
  ["utf_8", "utf_8_sig", "utf_16", "utf_16_le", "utf_16_be", "utf_32", "utf_32_le", "utf_32_be",
   "ascii", "latin_1", "charmap", "hex_codec", "rot_13", "base64_codec", "quopri_codec", "uu_codec",
   "zlib_codec", "bz2_codec"]

def asciiTable : String :=
  String.ofList ((List.range 0x80).map Char.ofNat)

/-- The characters of all bytes, in an encoding with a table. -/
def table? (name : String) : Option String :=
  ((upperTables.lookup name).map (asciiTable ++ ·)).or (fullTables.lookup name)

/-- The encoding with a table, or with a decoder outside, that is called this by itself. -/
def ofOwnName? (name : String) : Option Encoding :=
  ((table? name).map charmap).or (if foreignNames.contains name then some (foreign name) else none)

def isNameChar (c : Char) : Bool :=
  c.isAlphanum || c == '.'

/-- A name's characters in small letters, with one underscore for each gap between them. `gap` says that
a gap has been passed, `begun` that there is something before it. -/
def canonicalFrom (gap begun : Bool) : List Char → List Char
  | [] => []
  | c :: cs =>
    if isNameChar c then
      let rest := c.toLower :: canonicalFrom false true cs
      if gap && begun then '_' :: rest else rest
    else canonicalFrom true begun cs

def canonicalName (name : String) : List Char :=
  canonicalFrom false false name.toList

/-- A name with underscores for its points, unless that is what an encoding is called by itself. -/
def pointless? (canonical : List Char) : Option String :=
  let plain := String.ofList (canonical.map fun c => if c = '.' then '_' else c)
  if ownNames.contains plain || (ofOwnName? plain).isSome then none else some plain

/-- The encoding that is also called this. -/
def ofAlias? (name : String) : Option Encoding :=
  (plainNames.lookup name).or ((otherNames.lookup name).bind ofOwnName?)

/-- The encoding that a name stands for. A point may stand for an underscore in most names. -/
def ofName? (name : String) : Option Encoding :=
  let canonical := canonicalName name
  let spelled := String.ofList canonical
  if canonical.contains '.' then (pointedNames.lookup spelled).or ((pointless? canonical).bind ofAlias?)
  else (ofAlias? spelled).or (ofOwnName? spelled)

/-- Whether a name holds a null character. -/
def hasNull (name : String) : Bool :=
  name.toList.contains '\x00'

def isKnown (name : String) : Bool :=
  (ofName? name).isSome

example : ofName? "UTF 8" = some .utf8 ∧ ofName? "us-ascii" = some .ascii ∧ ofName? "utf.8" = none := by
  decide +kernel

example : ofName? "Shift.JIS" = none ∧ ofName? "x-mac.japanese" = some (.foreign "shift_jis") := by
  decide +kernel

end Encoding

end LayoutInheritance
