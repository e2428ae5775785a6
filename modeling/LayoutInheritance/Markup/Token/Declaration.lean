import LayoutInheritance.Markup.Token
import LayoutInheritance.Text.Lowercase

/-! Comments, processing instructions, doctypes and marked sections. Marked sections are read to
their end and then refused. -/

namespace LayoutInheritance.Lexeme

open Text

/-- The first place where `ending` matches: what stands before it, and what follows the match. -/
def search (ending : List Char → Option (List Char)) : List Char → Option (List Char × List Char)
  | [] => none
  | c :: cs =>
    match ending (c :: cs) with
    | some rest => some ([], rest)
    | none => (search ending cs).map fun found => (c :: found.1, found.2)

/-- What follows `c`, after any white space. -/
def afterBlank? (c : Char) (cs : List Char) : Option (List Char) :=
  match cs.dropWhile isBlank with
  | d :: rest => if d = c then some rest else none
  | [] => none

def commentEnd? : List Char → Option (List Char)
  | '-' :: '-' :: rest => afterBlank? '>' rest
  | _ => none

/-- Two closing brackets and the end. -/
def sectionEnd? : List Char → Option (List Char)
  | ']' :: rest => (afterBlank? ']' rest).bind (afterBlank? '>')
  | _ => none

/-- One closing bracket and the end. -/
def conditionEnd? : List Char → Option (List Char)
  | ']' :: rest => afterBlank? '>' rest
  | _ => none

/-- Everything up to the next closing angle bracket makes one token. -/
def upToAngle (cs : List Char) (token? : List Char → Option Token) : Lexeme :=
  match search (fun cs => if cs.head? = some '>' then some cs.tail else none) cs with
  | some (inside, rest) => .found (token? inside) rest
  | none => .incomplete

def comment (body : List Char) : Lexeme :=
  match search commentEnd? body with
  | some (inside, rest) => .found (some (.comment (String.ofList inside))) rest
  | none => .incomplete

def isSectionNameChar (c : Char) : Bool :=
  c.isAlphanum || c == '-' || c == '_' || c == '.'

/-- How the section with this keyword ends, if it is one that is known. -/
def sectionEnding? (keyword : String) : Option (List Char → Option (List Char)) :=
  if ["temp", "cdata", "ignore", "include", "rcdata"].contains keyword then some sectionEnd?
  else if ["if", "else", "endif"].contains keyword then some conditionEnd?
  else none

/-- A marked section; `body` is what follows its opening bracket, `whole` begins at its angle. -/
def markedSection (whole body : List Char) : Lexeme :=
  match body with
  | [] => .incomplete
  | c :: _ =>
    if !c.isAlpha then .fault (.nameExpected (String.ofList (whole.take 20)))
    else
      let name := body.takeWhile isSectionNameChar
      let gap := (body.drop name.length).takeWhile isBlank
      if name.length + gap.length = body.length then .incomplete
      else match sectionEnding? (lower (String.ofList name)) with
        | none => .fault (.unknownSection (String.ofList (name ++ gap)))
        | some ending =>
          match search ending body with
          | none => .incomplete
          | some (inside, _) => .fault (.unsupported (String.ofList inside))

/-- A declaration is a comment, a marked section or a doctype; any other is read as a comment. -/
def declaration (cs : List Char) : Lexeme :=
  let body := cs.drop 2
  match body with
  | '-' :: '-' :: rest => comment rest
  | '[' :: rest => markedSection cs rest
  | _ =>
    if (body.take 7).map Char.toLower = "doctype".toList then
      upToAngle (body.drop 7) fun inside => some (.doctype (String.ofList (body.take 7 ++ inside)))
    else upToAngle body fun inside => some (.comment (String.ofList inside))

/-- An instruction is passed over. -/
def instruction (cs : List Char) : Lexeme :=
  upToAngle (cs.drop 2) fun _ => none

end LayoutInheritance.Lexeme
