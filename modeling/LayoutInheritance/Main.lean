import LayoutInheritance.Command.Run
import Std.Time.Format

/-! The program on a real disk. Only what the command asks for is looked at, and only what it wrote is
written back. -/

namespace LayoutInheritance.Main

/-- The time of the log lines, without a zone. -/
def now : IO String := do
  let t := Std.Time.DateTime.ofTimestamp (← Std.Time.Timestamp.now) .UTC
  return t.format "uuuu-MM-dd HH:mm:ss,SSS"

/-- Takes over what is found at a path, and at every path that leads to it. -/
def look (cwd : Path) (d : Disk) (path : String) : IO Disk := do
  let p := cwd.join (Path.ofString path)
  let here ← IO.currentDir
  let mut d := d
  for n in List.range (p.components.length + 1) do
    let part : Path := ⟨p.anchor, p.components.take n⟩
    let place := part.normalize.components
    let there := here / part.text
    if ← there.isDir then
      d := d.withDirectory place
    else if ← there.pathExists then
      d := d.withFile place (← IO.FS.readBinFile there).toList
  return d

/-- Looks until the command asks for nothing new. -/
partial def explore (s : Surroundings) (seen args : List String) : IO Surroundings := do
  let asked := ((Outcome.asked s args).filter fun path => !seen.contains path).eraseDups
  if asked.isEmpty then return s
  explore { s with disk := ← asked.foldlM (look s.cwd) s.disk } (seen ++ asked) args

/-- Writes back the files that are new or changed. -/
def save (before after : Disk) : IO Unit := do
  for (place, entry) in after.entries do
    let path (place : Place) : String := (Path.mk .root place).text
    match entry, before.entry? place with
    | .file bytes, some (.file old) =>
      if bytes ≠ old then IO.FS.writeBinFile (path place) ⟨bytes.toArray⟩
    | .file bytes, _ =>
      IO.FS.createDirAll (path place.dropLast)
      IO.FS.writeBinFile (path place) ⟨bytes.toArray⟩
    | .directory, _ => pure ()

end LayoutInheritance.Main

open LayoutInheritance in
def main (args : List String) : IO UInt32 := do
  let here ← IO.currentDir
  let root ← IO.getEnv "LAYOUTS_ROOT"
  let encoding ← IO.getEnv "LAYOUTS_ENCODING"
  let start : Surroundings :=
    { disk := {}, cwd := Path.ofString here.toString, environment := ⟨root, encoding⟩, time := ← Main.now }
  let s ← Main.explore start [] args
  match Outcome.ofTexts s args with
  | .error failure =>
    IO.eprintln failure.message
    return 1
  | .ok outcome =>
    Main.save s.disk outcome.disk
    IO.eprint outcome.errors
    IO.print outcome.output
    return UInt32.ofNat outcome.code
