import LayoutInheritance.Disk.Basic
import LayoutInheritance.Log.Basic

/-! Where log records go. Handlers are attached to the logger at the top, and each writes to the error stream or to the
end of a file. The setup remembers the handler that it attached last, and the target that this one was for. -/

namespace LayoutInheritance.Log

/-- The logger at the top. -/
def topLogger : String := "layouts"

/-- Whether a logger is another one or stands below it. -/
def isWithin (top logger : String) : Bool :=
  logger == top || (top.toList ++ ['.']).isPrefixOf logger.toList

inductive Target where
  | stream
  | file (path : Path)
  deriving DecidableEq

structure Handler where
  target : Target
  level : Int
  deriving DecidableEq

/-- A handler is known by its place among all that were made. -/
abbrev HandlerId := Nat

structure Setup where
  /-- The level of the logger at the top. -/
  level : Int := 0
  /-- All handlers that were made, in order. -/
  made : List Handler := []
  /-- The handlers of the logger at the top. -/
  attached : List HandlerId := []
  /-- The handler that is remembered. -/
  own? : Option HandlerId := none
  /-- The target that is remembered. It may outlive its handler. -/
  target? : Option Target := none
  deriving DecidableEq

namespace Setup

/-- The level that records have to reach; where none is set, it is that of warnings. -/
def threshold (s : Setup) : Int :=
  if s.level = 0 then warning else s.level

/-- The handlers of the logger at the top, as they are now. -/
def handlers (s : Setup) : List Handler :=
  s.attached.filterMap fun id => s.made[id]?

/-- The remembered handler. -/
def handler? (s : Setup) : Option Handler :=
  s.own?.bind fun id => s.made[id]?

/-- The handlers that write a record. -/
def handlersFor (s : Setup) (r : Record) : List Handler :=
  if isWithin topLogger r.logger && s.threshold ≤ r.level then
    s.handlers.filter fun h => h.level ≤ r.level
  else []

def setLevel (s : Setup) (id : HandlerId) (level : Int) : Setup :=
  { s with made := s.made.modify id fun h => { h with level } }

/-- Takes the remembered handler away from the logger and forgets it. -/
def detach (s : Setup) : Setup :=
  match s.own? with
  | some id => { s with attached := s.attached.erase id, own? := none }
  | none => s

/-- Makes a handler, gives it to the logger and remembers it with its target. -/
def attach (s : Setup) (h : Handler) : Setup :=
  let id := s.made.length
  { s with made := s.made ++ [h], attached := s.attached ++ [id], own? := some id, target? := some h.target }

end Setup

/-- The setup, and what the handlers write to. -/
structure State where
  setup : Setup := {}
  disk : Disk := {}
  /-- What was written to the error stream. -/
  errors : String := ""

namespace State

def target (cwd : Path) (path? : Option String) : Target :=
  match path? with
  | none | some "" => .stream
  | some path => .file (cwd.absolute (Path.ofString path))

/-- The disk when a target has been opened for writing to its end. What was made before a fault stays. -/
def opened (d : Disk) (cwd : Path) : Target → Disk × Option FileFault
  | .stream => (d, none)
  | .file path =>
    match d.makeDirectories cwd path.parent with
    | (d, some fault) => (d, some fault)
    | (d, none) =>
      match d.append cwd path [] with
      | .ok d => (d, none)
      | .error fault => (d, some fault)

/-- Puts a handler for the target in the place of the remembered one, which goes even if the file of the new one cannot
be opened. -/
def replace (s : State) (cwd : Path) (h : Handler) : State × Option FileFault :=
  let setup := s.setup.detach
  match opened s.disk cwd h.target with
  | (disk, none) => ({ s with setup := setup.attach h, disk }, none)
  | (disk, some fault) => ({ s with setup, disk }, some fault)

/-- Sends records of a level to a target. A remembered handler for the same target only changes its level. Nothing
changes for a file that cannot even be named. -/
def configure (s : State) (cwd : Path) (levelName : String) (path? : Option String) :
    State × Option FileFault :=
  if path?.any fun path => (Path.ofString path).hasNull then (s, some .nullInPath)
  else
    let target := target cwd path?
    let level := levelOf levelName
    let s := { s with setup := { s.setup with level } }
    match s.setup.own? with
    | some id =>
      if s.setup.target? = some target then ({ s with setup := s.setup.setLevel id level }, none)
      else s.replace cwd ⟨target, level⟩
    | none => s.replace cwd ⟨target, level⟩

/-- Takes the remembered handler away, and forgets its target too. The level stays. -/
def reset (s : State) : State :=
  { s with setup := { s.setup.detach with target? := none } }

/-- Writes a text to a target. -/
def write (s : State) (cwd : Path) (target : Target) (text : String) : State :=
  match target with
  | .stream => { s with errors := s.errors ++ text }
  | .file path =>
    match s.disk.append cwd path (Utf8.encode text.toList) with
    | .ok disk => { s with disk }
    | .error _ => s

/-- Takes a record at a time. Each handler that takes it writes one line. -/
def log (s : State) (cwd : Path) (time : String) (r : Record) : State :=
  (s.setup.handlersFor r).foldl (fun s h => s.write cwd h.target (r.line time)) s

end State

end LayoutInheritance.Log
