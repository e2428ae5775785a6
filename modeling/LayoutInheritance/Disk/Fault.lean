import LayoutInheritance.Text.Quoted

/-! Why a file cannot be read or written. -/

namespace LayoutInheritance

/-- Bytes that an encoding does not allow: from `start` up to `stop`, where `first` is the first. -/
structure DecodeFault where
  encoding : String
  first : UInt8
  start : Nat
  stop : Nat
  reason : String
  deriving DecidableEq

def DecodeFault.message (f : DecodeFault) : String :=
  let place :=
    if f.stop = f.start + 1 then
      "byte 0x" ++ String.ofList (Text.hexDigits 2 f.first.toNat) ++ " in position " ++ toString f.start
    else "bytes in position " ++ toString f.start ++ "-" ++ toString (f.stop - 1)
  "'" ++ f.encoding ++ "' codec can't decode " ++ place ++ ": " ++ f.reason

inductive FileFault where
  /-- A document or layout that is not there. -/
  | textMissing (path : String)
  /-- Any other file that is not there. -/
  | missing (path : String)
  /-- Something above a file that is not there. -/
  | noEntry (path : String)
  | directory (path : String)
  | notDirectory (path : String)
  | occupied (path : String)
  | nameTooLong (path : String)
  /-- No path holds a null character, and no name of an encoding does. -/
  | nullInPath | nullInEncoding
  | undecodable (fault : DecodeFault)
  | noByteOrderMark (encoding : String)
  /-- What a decoder says against a text without naming bytes. -/
  | complaint (message : String)
  | unknownEncoding (name : String)
  /-- An encoding between bytes and bytes, or between texts and texts. -/
  | notTextEncoding (name : String)
  deriving DecidableEq

/-- A numbered refusal of the file system. -/
def systemMessage (number : Nat) (reason path : String) : String :=
  "[Errno " ++ toString number ++ "] " ++ reason ++ ": " ++ Text.quoted path

def FileFault.message : FileFault → String
  | textMissing path => "Text file not found: " ++ path
  | missing path => "File not found: " ++ path
  | noEntry path => systemMessage 2 "No such file or directory" path
  | directory path => systemMessage 21 "Is a directory" path
  | notDirectory path => systemMessage 20 "Not a directory" path
  | occupied path => systemMessage 17 "File exists" path
  | nameTooLong path => systemMessage 36 "File name too long" path
  | nullInPath => "embedded null byte"
  | nullInEncoding => "embedded null character"
  | undecodable fault => fault.message
  | noByteOrderMark encoding => encoding ++ " stream does not start with BOM"
  | complaint message => message
  | unknownEncoding name => "unknown encoding: " ++ name
  | notTextEncoding name =>
    "'" ++ name ++ "' is not a text encoding; use codecs.open() to handle arbitrary codecs"

end LayoutInheritance
