import LayoutInheritance.Command.Arguments
import LayoutInheritance.Inheritance.File
import LayoutInheritance.Inheritance.Records
import LayoutInheritance.Log.Setup
import LayoutInheritance.Options.Load
import LayoutInheritance.Report

/-! What the program does. A command processes a document and reports on it; what is wrong with the
configuration, the document or its layouts is reported too. -/

namespace LayoutInheritance

/-- The stack that nested elements and collections are worked on with. It is not said how far it goes, but
that it does not run out over a few bytes. -/
structure Stack where
  /-- Whether it runs out over files with these bytes. -/
  overflows : List (List UInt8) → Bool
  room : Nat
  overflows_eq_false : ∀ files, files.flatten.length ≤ room → overflows files = false

def Stack.endless : Stack where
  overflows _ := false
  room := 0
  overflows_eq_false _ _ := rfl

/-- What the program finds when it starts, and what it is made of besides. -/
structure Surroundings where
  disk : Disk
  cwd : Path
  environment : Environment := {}
  /-- The time that log lines bear. -/
  time : String := ""
  codecs : Codecs := .none
  reader : ConfigReader := .standard
  stack : Stack := .endless

/-- What the program leaves behind. -/
structure Outcome where
  code : Nat
  output : String := ""
  errors : String := ""
  disk : Disk

/-- The options of a document: those of the configuration, under those of the command line. Empty ones
count as missing. -/
def Arguments.overlay (a : Arguments) (o : Options) : Except Failure Options := do
  let o := match a.root? with
    | none | some "" => o
    | some root => o.withRoot (Path.ofString root)
  match a.encoding? with
  | none | some "" => return o
  | some encoding => return { o with encoding := ← checkEncoding encoding }

/-- What came of a document: its text or a failure, and the run that led there, after the loading of the
options. -/
structure Result where
  outcome : Except Failure String
  loading : List Log.Record
  run : Run := {}

def Result.records (r : Result) : List Log.Record :=
  r.loading ++ r.run.records

namespace Surroundings

/-- The result of a document as far as the stack does not run out. -/
def attempt (s : Surroundings) (file : String) (a : Arguments) : Result :=
  let loaded := Options.load s.disk s.reader s.cwd s.environment {} a.config?
  match loaded.outcome.bind a.overlay with
  | .error failure => { outcome := .error failure, loading := loaded.records }
  | .ok options =>
    let setting : Setting :=
      { library := Library.ofDisk s.disk s.codecs s.cwd, cwd := s.cwd, options }
    let (outcome, run) := (setting.processFile s.disk s.codecs file).run {}
    { outcome := outcome.map fun tree => Markup.renderAll (run.store.document tree)
      loading := loaded.records
      run }

/-- The bytes of a command's configuration, of its document, and of the layouts as often as a run loads
them. -/
def workload (s : Surroundings) (file : String) (a : Arguments) (r : Run) : List (List UInt8) :=
  (a.config?.toList ++ file :: r.loads.map Prod.fst).filterMap fun path =>
    (s.disk.readBytes s.cwd (Path.ofString path)).toOption

def process (s : Surroundings) (file : String) (a : Arguments) : Result :=
  let result := s.attempt file a
  if s.stack.overflows (s.workload file a result.run) then { result with outcome := .error .tooDeep }
  else result

/-- The lines of the records that reach a level, as the error stream gets them. -/
def logged (s : Surroundings) (levelName : String) (records : List Log.Record) : String :=
  let start := (Log.State.configure { disk := s.disk } s.cwd levelName none).1
  (records.foldl (fun state r => state.log s.cwd s.time r) start).errors

end Surroundings

def Dependency.data (d : Dependency) : Data :=
  .map [("file", .text d.file), ("parent", match d.parent with | some name => .text name | none => .null)]

def fileErrorCode : String := "file_error"

/-- The report of a failure. What is wrong with the names of encodings, names with a null character,
complaints of decoders, what cannot be told apart from markup at all, values that cannot be, and the end of
the stack, are beyond reporting. -/
def Reporter.failed? (r : Reporter) : Failure → Option String
  | .issue issue => some (r.issue issue)
  | .file (.noByteOrderMark _) | .file (.complaint _) | .file (.unknownEncoding _)
  | .file (.notTextEncoding _) | .file .nullInPath | .file .nullInEncoding => none
  | .file fault => some (r.failure fileErrorCode fault.message none)
  | .malformed _ | .yaml _ | .tooDeep => none

namespace Command

/-- Where the result goes, if it goes to a file. -/
def target? (a : Arguments) : Option String :=
  a.output?.filter fun path => !path.isEmpty

/-- The disk after the result is written. -/
def written (s : Surroundings) (a : Arguments) (html : String) : Except FileFault Disk :=
  match target? a with
  | none => .ok s.disk
  | some path =>
    let p := Path.ofString path
    match s.disk.makeDirectories s.cwd p.parent with
    | (disk, none) => disk.write s.cwd p (Utf8.encode html.toList)
    | (_, some fault) => .error fault

def dependencyEntry (ds : List Dependency) : String × Data :=
  ("dependencies", .list (ds.map Dependency.data))

/-- The report of a command's result. -/
def report (command : Command) (r : Reporter) (a : Arguments) (html : String) (ds : List Dependency) :
    String :=
  match command with
  | deps =>
    r.success [dependencyEntry ds]
      ("\n".intercalate (ds.map fun d => d.file ++ " <- " ++ documentName d.parent))
  | render =>
    let path : Data := match a.output? with
      | some path => .text path
      | none => .null
    match target? a with
    | some file =>
      r.success [("output", .null), ("path", path), dependencyEntry ds] ("Wrote " ++ file)
    | none => r.success [("output", .text html), ("path", path), dependencyEntry ds] html

/-- Runs a command. A failure that is beyond reporting is the result itself. -/
def run (command : Command) (s : Surroundings) (file : String) (a : Arguments) : Except Failure Outcome :=
  let r : Reporter := { json := a.json }
  let result := s.process file a
  let log := s.logged (if a.verbose then "DEBUG" else "WARNING") result.records
  match result.outcome with
  | .error failure =>
    match r.failed? failure with
    | some report => .ok { code := 1, errors := log ++ report, disk := s.disk }
    | none => .error failure
  | .ok html => do
    let disk ← match command with
      | deps => .ok s.disk
      | render => (written s a html).mapError .file
    return { code := 0, output := command.report r a html result.run.dependencies, errors := log, disk }

/-- The paths that a command asks for, as far as the disk lets it come. -/
def asked (s : Surroundings) (file : String) (a : Arguments) : List String :=
  file :: a.config?.toList ++ a.output?.toList ++ (s.process file a).run.loads.map Prod.fst

end Command

namespace Outcome

def versionText : String :=
  programName ++ " " ++ programVersion ++ "\n"

/-- How the program is called. -/
def usage (command? : Option Command) : String :=
  let words (flags : List Flag) : List String :=
    flags.map fun f => "[" ++ f.shown ++ (if f.takesValue then " VALUE" else "") ++ "]"
  let parts := match command? with
    | none => programName :: words Flag.general ++ ["<command>", "..."]
    | some c => programName :: c.name :: words c.flags ++ ["file"]
  "usage: " ++ " ".intercalate parts ++ "\n"

/-- What a command line does. -/
def ofTexts (s : Surroundings) (texts : List String) : Except Failure Outcome :=
  match Request.ofTexts texts with
  | .error refusal =>
    .ok { code := 2, errors := usage refusal.command? ++ refusal.message ++ "\n", disk := s.disk }
  | .ok (.help command?) => .ok { code := 0, output := usage command?, disk := s.disk }
  | .ok .version => .ok { code := 0, output := versionText, disk := s.disk }
  | .ok (.run command file a) => command.run s file a

def asked (s : Surroundings) (texts : List String) : List String :=
  match Request.ofTexts texts with
  | .ok (.run _ file a) => Command.asked s file a
  | _ => []

end Outcome

end LayoutInheritance
