import LayoutInheritance.Text.Quoted

/-! The commands of the program, the flags that each of them takes, and what can be wrong with the words of
a command line. -/

namespace LayoutInheritance

inductive Command where
  /-- Lists the layouts that a document depends on. -/
  | deps
  /-- Writes the document that results. -/
  | render
  deriving DecidableEq

inductive Flag where
  | help | version | root | encoding | config | json | verbose | output
  deriving DecidableEq

namespace Flag

/-- How a flag is spelled: two dashes and a word, or one dash and a letter. -/
def spellings : Flag → List String
  | help => ["-h", "--help"]
  | version => ["--version"]
  | root => ["--root"]
  | encoding => ["--encoding"]
  | config => ["--config"]
  | json => ["--json"]
  | verbose => ["--verbose", "-v"]
  | output => ["--output", "-o"]

def takesValue : Flag → Bool
  | root | encoding | config | output => true
  | help | version | json | verbose => false

/-- The flags that stand before a command. -/
def general : List Flag := [help, version]

/-- All spellings of some flags. -/
def spelled (flags : List Flag) : List (String × Flag) :=
  flags.flatMap fun f => f.spellings.map (·, f)

def shown (f : Flag) : String :=
  "/".intercalate f.spellings

end Flag

namespace Command

def all : List Command := [deps, render]

def name : Command → String
  | deps => "deps"
  | render => "render"

def ofName? (name : String) : Option Command :=
  all.find? fun c => c.name == name

def flags : Command → List Flag
  | deps => [.help, .root, .encoding, .config, .json, .verbose]
  | render => [.help, .root, .encoding, .config, .json, .verbose, .output]

end Command

/-- What is wrong with a command line. -/
inductive UsageFault where
  | ambiguous (word : String) (spellings : List String)
  | unexpectedValue (flag : Flag) (value : String)
  | missingValue (flag : Flag)
  | missingFile
  | unknownCommand (name : String)
  | unrecognized (words : List String)
  deriving DecidableEq

def UsageFault.message : UsageFault → String
  | ambiguous word spellings =>
    "ambiguous option: " ++ word ++ " could match " ++ ", ".intercalate spellings
  | unexpectedValue flag value =>
    "argument " ++ flag.shown ++ ": ignored explicit argument " ++ Text.quoted value
  | missingValue flag => "argument " ++ flag.shown ++ ": expected one argument"
  | missingFile => "the following arguments are required: file"
  | unknownCommand name =>
    "argument <command>: invalid choice: " ++ Text.quoted name ++ " (choose from "
      ++ ", ".intercalate (Command.all.map fun c => Text.quoted c.name) ++ ")"
  | unrecognized words => "unrecognized arguments: " ++ " ".intercalate words

/-- A command line that is refused, by one of the commands or before any. -/
structure Refusal where
  command? : Option Command
  fault : UsageFault
  deriving DecidableEq

def programName : String := "layouts"

def programVersion : String := "1.0.0"

def Refusal.message (r : Refusal) : String :=
  let name := match r.command? with
    | some c => programName ++ " " ++ c.name
    | none => programName
  name ++ ": error: " ++ r.fault.message

end LayoutInheritance
