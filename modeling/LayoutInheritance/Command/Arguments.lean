import LayoutInheritance.Command.Word

/-! What a command line asks for. The first word that is no flag names the command, and all words after it
are the command's. The flags are followed in their order, so a question for help or for the version is
answered whatever comes after it. -/

namespace LayoutInheritance

/-- What the flags of a command say. -/
structure Arguments where
  root? : Option String := none
  encoding? : Option String := none
  config? : Option String := none
  output? : Option String := none
  json : Bool := false
  verbose : Bool := false
  deriving DecidableEq

inductive Request where
  | help (command? : Option Command)
  | version
  | run (command : Command) (file : String) (arguments : Arguments)
  deriving DecidableEq

/-- Why the reading of words ends early. -/
inductive Ending where
  | answered (request : Request)
  | refused (refusal : Refusal)

namespace Arguments

/-- The flags of one word. All but the last stand without a value. -/
structure Cluster where
  first : List Flag
  last : Flag
  value? : Option String
  deriving DecidableEq

/-- A value of two dashes alone counts as none. -/
def valueOf (cs : List Char) : String :=
  if cs = ['-', '-'] then "" else String.ofList cs

/-- A short flag and what follows it in its word: its value, or more short flags. -/
def cluster (flags : List Flag) (f : Flag) : List Char → Except UsageFault Cluster
  | [] => if f.takesValue then .ok ⟨[], f, some ""⟩ else .error (.unexpectedValue f "")
  | c :: rest =>
    if f.takesValue then .ok ⟨[], f, some (valueOf (c :: rest))⟩
    else match (Flag.spelled flags).lookup (String.ofList ['-', c]) with
      | none => .error (.unexpectedValue f (String.ofList (c :: rest)))
      | some g =>
        if rest.isEmpty then .ok ⟨[f], g, none⟩
        else (cluster flags g rest).map fun k => { k with first := f :: k.first }

/-- The flags of a word. -/
def flagsOf (flags : List Flag) (f : Flag) (short : Bool) : Option (List Char) → Except UsageFault Cluster
  | none => .ok ⟨[], f, none⟩
  | some cs =>
    if short then cluster flags f cs
    else if f.takesValue then .ok ⟨[], f, some (valueOf cs)⟩
    else .error (.unexpectedValue f (String.ofList cs))

/-- Follows a flag. -/
def follow (command? : Option Command) (a : Arguments) (f : Flag) (value : String) :
    Except Ending Arguments :=
  match f with
  | .help => .error (.answered (.help command?))
  | .version => .error (.answered .version)
  | .root => .ok { a with root? := some value }
  | .encoding => .ok { a with encoding? := some value }
  | .config => .ok { a with config? := some value }
  | .output => .ok { a with output? := some value }
  | .json => .ok { a with json := true }
  | .verbose => .ok { a with verbose := true }

/-- Follows the flags of one word, the last with its value. -/
def followAll (command? : Option Command) (a : Arguments) (k : Cluster) (value : String) :
    Except Ending Arguments := do
  let a ← k.first.foldlM (fun a f => follow command? a f "") a
  follow command? a k.last value

def refuse {α : Type} (command? : Option Command) (fault : UsageFault) : Except Ending α :=
  .error (.refused ⟨command?, fault⟩)

/-- The words of a command, as far as they are read. -/
structure Draft where
  file? : Option String := none
  arguments : Arguments := {}
  deriving DecidableEq

/-- Reads the words of a command, and gives the words left over. The two dashes before or after the file
belong to it; elsewhere they are left over. -/
def ofWords (command : Command) (r : Draft) : List Word → Except Ending (Draft × List String)
  | [] => .ok (r, [])
  | .flag _ f short value? :: rest =>
    match flagsOf command.flags f short value? with
    | .error fault => refuse command fault
    | .ok k =>
      if k.last.takesValue && k.value?.isNone then
        match rest with
        | .plain value :: rest => do
          let arguments ← followAll command r.arguments k value
          ofWords command { r with arguments } rest
        | _ => refuse command (.missingValue k.last)
      else do
        let arguments ← followAll command r.arguments k (k.value?.getD "")
        ofWords command { r with arguments } rest
  | .plain text :: rest =>
    if r.file?.isNone then
      match rest with
      | .dashes :: rest => ofWords command { r with file? := some text } rest
      | rest => ofWords command { r with file? := some text } rest
    else (ofWords command r rest).map fun done => (done.1, text :: done.2)
  | .dashes :: .plain text :: rest =>
    if r.file?.isNone then ofWords command { r with file? := some text } rest
    else (ofWords command r rest).map fun done => (done.1, "--" :: text :: done.2)
  | word :: rest => (ofWords command r rest).map fun done => (done.1, word.text :: done.2)

end Arguments

namespace Request

/-- The words of the command with its name, if there is one, and the words left over before it. -/
def commandWords : List Word → Except Ending (Option (String × List String) × List String)
  | [] => .ok (none, [])
  | .flag _ f short value? :: rest =>
    match Arguments.flagsOf Flag.general f short value? with
    | .error fault => Arguments.refuse none fault
    | .ok k => do
      let _ ← Arguments.followAll none {} k ""
      commandWords rest
  | .plain name :: rest => .ok (some (name, rest.map Word.text), [])
  | .dashes :: .plain text :: rest => .ok (some ("--", text :: rest.map Word.text), [])
  | word :: rest => (commandWords rest).map fun r => (r.1, word.text :: r.2)

/-- Reads the words after a command's name. -/
def ofCommand (name : String) (texts before : List String) : Except Ending Request := do
  let some command := Command.ofName? name | Arguments.refuse none (.unknownCommand name)
  match Word.ofTexts command.flags texts with
  | .error fault => Arguments.refuse command fault
  | .ok words =>
    let (r, after) ← Arguments.ofWords command {} words
    let some file := r.file? | Arguments.refuse command .missingFile
    match before ++ after with
    | [] => return .run command file r.arguments
    | left => Arguments.refuse none (.unrecognized left)

/-- Reads a command line. One without a command asks for help. -/
def read (texts : List String) : Except Ending Request :=
  match Word.ofTexts Flag.general texts with
  | .error fault => Arguments.refuse none fault
  | .ok words => do
    match ← commandWords words with
    | (some (name, texts), before) => ofCommand name texts before
    | (none, []) => return .help none
    | (none, left) => Arguments.refuse none (.unrecognized left)

/-- What a command line asks for. -/
def ofTexts (texts : List String) : Except Refusal Request :=
  match read texts with
  | .ok request | .error (.answered request) => .ok request
  | .error (.refused refusal) => .error refusal

example : (ofTexts ["render", "-vo", "x", "--ro=y", "--", "f"]).toOption
    = some (.run .render "f" { root? := some "y", output? := some "x", verbose := true }) := by
  decide +kernel
example : (ofTexts ["deps", "-h", "--root"]).toOption = some (.help (some .deps)) := by decide +kernel
example : (ofTexts ["deps", "-hx", "f"]).toOption = none := by decide +kernel

end Request

end LayoutInheritance
