import LayoutInheritance.Dictionary
import LayoutInheritance.Encoding.Text
import LayoutInheritance.Path.Basic
import LayoutInheritance.Text.Lines

/-! A disk: directories and files by the components of their place. A path is walked component by
component, so every directory that it names has to be there, also one that a parent component leaves. -/

namespace LayoutInheritance

/-- The components from the top of the disk. -/
abbrev Place := List (List Char)

inductive Disk.Entry where
  | directory
  | file (bytes : List UInt8)

structure Disk where
  entries : Dictionary Place Disk.Entry := []

namespace Disk

/-- What a walk finds at its end. -/
inductive Found where
  | nothing
  /-- A component stands below something that is no directory. -/
  | blocked
  | nameTooLong
  /-- The path holds a null character. -/
  | unnameable
  | directory
  | file (bytes : List UInt8)

def entry? (d : Disk) (place : Place) : Option Entry :=
  if place = [] then some .directory else d.entries.get? place

def longestName : Nat := 255

def longestPath : Nat := 4095

def byteLength (cs : List Char) : Nat :=
  (Utf8.encode cs).length

/-- Walks on from a place that is itself found as `found`. -/
def walk (d : Disk) (place : Place) : (components : List (List Char)) → Place × Found
  | [] =>
    (place, match d.entry? place with
      | none => .nothing
      | some .directory => .directory
      | some (.file bytes) => .file bytes)
  | name :: rest =>
    match d.entry? place with
    | none => (place, .nothing)
    | some (.file _) => (place, .blocked)
    | some .directory =>
      if name = Path.parentComponent then walk d place.dropLast rest
      else if longestName < byteLength name then (place, .nameTooLong)
      else walk d (place ++ [name]) rest

/-- The place that a path leads to, and what is found there. -/
def find (d : Disk) (cwd p : Path) : Place × Found :=
  if p.hasNull then ([], .unnameable)
  else if longestPath < byteLength p.chars then ([], .nameTooLong)
  else d.walk (if p.isAbsolute then [] else cwd.components) p.components

/-- Whether something is there. A name that is too long is refused. -/
def isThere (d : Disk) (cwd p : Path) : Except FileFault Bool :=
  match (d.find cwd p).2 with
  | .nothing | .blocked | .unnameable => .ok false
  | .nameTooLong => .error (.nameTooLong p.text)
  | .directory | .file _ => .ok true

/-- The bytes of a file. -/
def readBytes (d : Disk) (cwd p : Path) : Except FileFault (List UInt8) :=
  match (d.find cwd p).2 with
  | .nothing => .error (.noEntry p.text)
  | .blocked => .error (.notDirectory p.text)
  | .nameTooLong => .error (.nameTooLong p.text)
  | .unnameable => .error .nullInPath
  | .directory => .error (.directory p.text)
  | .file bytes => .ok bytes

/-- The text of a file, with every line end a line feed. -/
def readText (d : Disk) (codecs : Codecs) (cwd : Path) (path encoding : String) :
    Except FileFault String := do
  let p := Path.ofString path
  if ← d.isThere cwd p then
    if Encoding.hasNull encoding then throw .nullInEncoding
    let bytes ← d.readBytes cwd p
    let cs ← Encoding.decodeNamed codecs encoding bytes
    return String.ofList (Text.unifyLineEnds cs)
  else throw (.textMissing p.text)

/-- Makes one directory below one that is there. -/
def makeDirectory (d : Disk) (cwd p : Path) : Except FileFault Disk :=
  match d.find cwd p with
  | (_, .directory) | (_, .file _) => .error (.occupied p.text)
  | (_, .blocked) => .error (.notDirectory p.text)
  | (_, .nameTooLong) => .error (.nameTooLong p.text)
  | (_, .unnameable) => .error .nullInPath
  | (place, .nothing) =>
    match d.find cwd p.parent, p.components.getLast? with
    | (parent, .directory), some name =>
      if parent ++ [name] = place then .ok ⟨d.entries.put place .directory⟩ else .error (.noEntry p.text)
    | _, _ => .error (.noEntry p.text)

/-- Makes a directory that may be there already. -/
def keepDirectory (d : Disk) (cwd p : Path) : Disk × Option FileFault :=
  match d.makeDirectory cwd p with
  | .ok d => (d, none)
  | .error fault =>
    match (d.find cwd p).2 with
    | .directory => (d, none)
    | _ => (d, some fault)

/-- Makes a directory and those above it that are missing. It may be there already; `bound` is met once it
reaches the number of components. The directories that were made before a fault stay. -/
def makeDirectoriesWithin (cwd : Path) : (bound : Nat) → Path → Disk → Disk × Option FileFault
  | 0, _, d => (d, none)
  | bound + 1, p, d =>
    match d.makeDirectory cwd p with
    | .error (.noEntry _) =>
      if p.components = [] then (d, some (.noEntry p.text))
      else match makeDirectoriesWithin cwd bound p.parent d with
        | (d, none) => d.keepDirectory cwd p
        | (d, some fault) => (d, some fault)
    | _ => d.keepDirectory cwd p

def makeDirectories (d : Disk) (cwd p : Path) : Disk × Option FileFault :=
  makeDirectoriesWithin cwd (p.components.length + 1) p d

/-- Opens a file for writing, and gives its place and the bytes that are there. -/
def openFile (d : Disk) (cwd p : Path) : Except FileFault (Place × List UInt8) :=
  match d.find cwd p with
  | (_, .directory) => .error (.directory p.text)
  | (_, .blocked) => .error (.notDirectory p.text)
  | (_, .nameTooLong) => .error (.nameTooLong p.text)
  | (_, .unnameable) => .error .nullInPath
  | (place, .file bytes) => .ok (place, bytes)
  | (place, .nothing) =>
    match d.find cwd p.parent, p.components.getLast? with
    | (parent, .directory), some name =>
      if parent ++ [name] = place then .ok (place, []) else .error (.noEntry p.text)
    | _, _ => .error (.noEntry p.text)

def put (d : Disk) (place : Place) (bytes : List UInt8) : Disk :=
  ⟨d.entries.put place (.file bytes)⟩

/-- Writes a file anew. -/
def write (d : Disk) (cwd p : Path) (bytes : List UInt8) : Except FileFault Disk := do
  let (place, _) ← d.openFile cwd p
  return d.put place bytes

/-- Writes to the end of a file. -/
def append (d : Disk) (cwd p : Path) (bytes : List UInt8) : Except FileFault Disk := do
  let (place, old) ← d.openFile cwd p
  return d.put place (old ++ bytes)

/-- Puts a directory and all above it. -/
def withDirectory (d : Disk) (place : Place) : Disk :=
  (List.range (place.length + 1)).foldl (fun d n =>
    if n = 0 then d else ⟨d.entries.put (place.take n) .directory⟩) d

/-- Puts a file, with the directories above it. -/
def withFile (d : Disk) (place : Place) (bytes : List UInt8) : Disk :=
  (d.withDirectory place.dropLast).put place bytes

end Disk

end LayoutInheritance
