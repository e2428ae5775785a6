import LayoutInheritance.Encoding.Basic
import LayoutInheritance.Inheritance.Run
import LayoutInheritance.Log.Basic
import LayoutInheritance.Options.Basic
import LayoutInheritance.Options.Section
import LayoutInheritance.Yaml.Document.Draft
import LayoutInheritance.Yaml.File

/-! Options from a configuration file and from the environment. What the environment says wins over the
file, and the file over the options to start from. Only the encoding that wins has to be known. -/

namespace LayoutInheritance

/-- The settings of the environment. An empty one counts as missing. -/
structure Environment where
  root : Option String := none
  encoding : Option String := none

/-- The settings among the variables of the environment. -/
def Environment.ofVariables (lookup : String → Option String) : Environment :=
  ⟨lookup "LAYOUTS_ROOT", lookup "LAYOUTS_ENCODING"⟩

namespace ConfigIssue

def notFound (path : String) : Issue :=
  .config ("Config file not found: " ++ path) [("path", .text path)]

def malformed (path : String) : Issue :=
  .config ("Invalid YAML in " ++ path) [("path", .text path)]

def notMapping (path : String) : Issue :=
  .config ("Invalid config " ++ path ++ ": top level must be a mapping") []

def invalid (path : String) (fault : Section.Fault) : Issue :=
  .config ("Invalid config " ++ path ++ ": " ++ fault.field ++ ": " ++ fault.message)
    [("path", .text path), ("field", .text fault.field)]

def unknownEncoding (name : String) : Issue :=
  .config ("Unknown encoding: " ++ Text.quoted name) [("encoding", .text name)]

end ConfigIssue

/-- The encoding, when it is known. -/
def checkEncoding (name : String) : Except Failure String :=
  if Encoding.hasNull name then .error (.file .nullInEncoding)
  else if Encoding.isKnown name then .ok name
  else .error (.issue (ConfigIssue.unknownEncoding name))

/-- What reads configuration files: a reader of YAML, and a checker of their form. -/
structure ConfigReader where
  document : Yaml.Reader
  /-- What is wrong with the entries at the top of a document. -/
  fault? : Yaml.Document → Dictionary Yaml.Value Yaml.Value → Option Section.Fault
  /-- The checker faults what is not of the form, and nothing else. -/
  fault?_eq_none : ∀ d entries, fault? d entries = none ↔ Section.Conforms d entries

def ConfigReader.standard : ConfigReader where
  document := Yaml.Document.ofText
  fault? := Section.fault?
  fault?_eq_none _ _ := Section.fault?_eq_none

/-- The section of a configuration file. A file without a value is an empty mapping. -/
def Disk.readSection (d : Disk) (c : ConfigReader) (cwd : Path) (path : String) : Except Failure Section :=
  let shown := (Path.ofString path).text
  match d.readYaml c.document cwd path with
  | .error (.file (.missing _)) => .error (.issue (ConfigIssue.notFound shown))
  | .error (.file fault) => .error (.file fault)
  | .error (.text .malformed) => .error (.issue (ConfigIssue.malformed shown))
  | .error (.text fault) => .error (.yaml fault)
  | .ok document =>
    match document.root, document.entries? document.root with
    | .null, _ => .ok {}
    | _, none => .error (.issue (ConfigIssue.notMapping shown))
    | _, some entries =>
      match c.fault? document entries with
      | some fault => .error (.issue (ConfigIssue.invalid shown fault))
      | none => .ok (Section.ofEntries document entries)

namespace Options

/-- A relative root of a file is relative to the directory of the file. -/
def withSection (o : Options) (cwd : Path) (path : String) (sect : Section) : Options :=
  let directory := (cwd.absolute (Path.ofString path)).parent
  let o := match sect.root with
    | some root => o.withRoot (directory.join (Path.ofString root))
    | none => o
  match sect.encoding with
  | some encoding => o.withEncoding encoding
  | none => o

def trimmed (s : String) : String :=
  String.ofList (Text.trimBlank s.toList)

def withEnvironment (o : Options) (env : Environment) : Options :=
  let o := match env.root with
    | none | some "" => o
    | some root => o.withRoot (Path.ofString root)
  match env.encoding with
  | none | some "" => o
  | some encoding => o.withEncoding (trimmed encoding)

/-- What loading options gives, and what it logs on the way. -/
structure Loaded where
  outcome : Except Failure Options
  records : List Log.Record := []

def loadedRecord (path : String) : Log.Record :=
  ⟨"layouts.core.config", Log.debug, "Loaded layouts config from " ++ (Path.ofString path).text⟩

/-- Loads options from a file, if one is given, and the environment. -/
def load (d : Disk) (c : ConfigReader) (cwd : Path) (env : Environment) (base : Options)
    (path? : Option String) : Loaded :=
  let finish (o : Options) : Except Failure Options := do
    let o := o.withEnvironment env
    let _ ← checkEncoding o.encoding
    return o
  match path? with
  | none => { outcome := finish base }
  | some path =>
    match d.readSection c cwd path with
    | .error failure => { outcome := .error failure }
    | .ok sect => { outcome := finish (base.withSection cwd path sect), records := [loadedRecord path] }

end Options

end LayoutInheritance
