import LayoutInheritance.Disk.Basic
import LayoutInheritance.Inheritance.Flatten

/-! Documents and layouts in files. -/

namespace LayoutInheritance

/-- The texts of absolute paths, in normal form, that lead to the files of a disk. -/
def Disk.filePaths (d : Disk) : List String :=
  d.entries.flatMap fun
    | (place, .file _) => [(Path.mk .root place).text, (Path.mk .doubleRoot place).text]
    | (_, .directory) => []

/-- The layouts on a disk. A layout is asked for by its absolute path in normal form. -/
def Library.ofDisk (d : Disk) (codecs : Codecs) (cwd : Path) : Library where
  read path encoding := do
    let text ← d.readText codecs cwd path encoding
    if path ∈ d.filePaths then return text else throw (.textMissing path)
  paths := d.filePaths
  mem_paths path encoding text h := by
    cases hr : d.readText codecs cwd path encoding with
    | error fault => simp [hr, bind, Except.bind] at h
    | ok t =>
      by_cases hp : path ∈ d.filePaths
      · exact hp
      · simp [hr, hp, bind, Except.bind, throw, throwThe, MonadExceptOf.throw] at h

/-- Processes the document in a file. -/
def Setting.processFile (setting : Setting) (d : Disk) (codecs : Codecs) (path : String) :
    Step (List NodeId) := do
  match d.readText codecs setting.cwd path setting.options.encoding with
  | .error fault => throw (.file fault)
  | .ok text => setting.process (some path) text

end LayoutInheritance
