import LayoutInheritance.Disk.Basic
import LayoutInheritance.Yaml.Fault
import LayoutInheritance.Yaml.Value

/-! YAML in files. Their texts are given to a reader of YAML. -/

namespace LayoutInheritance

/-- Why a file has no value. -/
inductive YamlFault where
  | file (fault : FileFault)
  | text (fault : Yaml.Fault)

/-- A reader of YAML. -/
abbrev Yaml.Reader := String → Except Yaml.Fault Yaml.Document

namespace Disk

/-- A sequence that the end of the file cuts off is reported as if it stood alone. -/
def cutOff (fault : DecodeFault) : DecodeFault :=
  if fault.reason = "unexpected end of data" then
    { fault with start := 0, stop := fault.stop - fault.start }
  else fault

/-- The document of a YAML file. -/
def readYaml (d : Disk) (read : Yaml.Reader) (cwd : Path) (path : String) :
    Except YamlFault Yaml.Document := do
  let p := Path.ofString path
  if !(← (d.isThere cwd p).mapError .file) then throw (.file (.missing p.text))
  let bytes ← (d.readBytes cwd p).mapError .file
  let cs ← (Utf8.decode bytes).mapError fun fault => .file (.undecodable (cutOff fault))
  (read (String.ofList (Text.unifyLineEnds cs))).mapError .text

/-- Whether a fault counts as there being no document, where that is allowed. Bytes that are no text, values
that cannot be, and names that are too long to look for, always count as faults. -/
def isAbsence (d : Disk) (cwd : Path) (path : String) : YamlFault → Bool
  | .text fault => fault == .malformed
  | .file (.undecodable _) => false
  | .file _ => (d.isThere cwd (Path.ofString path)).toOption.isSome

/-- The document of a YAML file, if there is one. -/
def readYaml? (d : Disk) (read : Yaml.Reader) (cwd : Path) (path : String) :
    Except YamlFault (Option Yaml.Document) :=
  match d.readYaml read cwd path with
  | .ok document => .ok (some document)
  | .error fault => if d.isAbsence cwd path fault then .ok none else .error fault

end Disk

end LayoutInheritance
