import LayoutInheritance.Markup.Token.Declaration
import LayoutInheritance.Markup.Token.Tag

/-! The scan of a text into placed tokens. A text may come in parts: what cannot be decided yet is kept
until more arrives, and only the end of the text settles it. The scan goes through the text character by
character; a token found at one place is owed the characters that it spans. -/

namespace LayoutInheritance

open Text

/-- A line and a column, counted from one. -/
structure Position where
  line : Nat := 1
  column : Nat := 1
  deriving DecidableEq

namespace Position

/-- Only a line feed begins a line. -/
def next (p : Position) (c : Char) : Position :=
  if c = '\n' then ⟨p.line + 1, 1⟩ else ⟨p.line, p.column + 1⟩

def after (p : Position) (cs : List Char) : Position :=
  cs.foldl next p

end Position

/-- Elements whose content is raw text up to their end tag. -/
def rawElements : List String :=
  ["script", "style"]

namespace Scan

/-- Whether `c` is the small letter `x` in some case; the long s and the i without a dot, or with a dot
too many, count as well. -/
def isLetter (x c : Char) : Bool :=
  c.toLower == x || (x == 's' && c == 'ſ') || (x == 'i' && (c == 'ı' || c == 'İ'))

/-- What follows `name` in any case. -/
def afterName? : List Char → List Char → Option (List Char)
  | [], cs => some cs
  | x :: name, c :: cs => if isLetter x c then afterName? name cs else none
  | _ :: _, [] => none

/-- Whether the raw text of the element `name` ends here. -/
def endsRaw (name : String) : List Char → Bool
  | '<' :: '/' :: rest =>
    ((afterName? name.toList (rest.dropWhile isBlank)).bind (Lexeme.afterBlank? '>')).isSome
  | _ => false

/-- The raw text before its end, if the end is there. -/
def rawText? (name : String) : List Char → Option (List Char)
  | [] => none
  | c :: cs => if endsRaw name (c :: cs) then some [] else (rawText? name cs).map (c :: ·)

/-- What is done at one place of the text. -/
inductive Action where
  /-- A token, if any, spans this character and `more` others. -/
  | take (token? : Option Token) (more : Nat)
  /-- The scan ends, once the token has been given and `count` characters have been passed. -/
  | halt (token? : Option Token) (count : Nat)
  | fail (reason : Token.Fault)

/-- A text token. -/
def textOf (cs : List Char) : Option Token :=
  some (.text (String.ofList cs))

/-- An angle bracket. An unfinished construct waits for more text; at the end of the text it is text, up
to its closing bracket or the next opening one. -/
def atAngle (atEnd : Bool) (raw : Option String) (cs : List Char) : Action :=
  let next := cs.tail.head?
  let lexeme :=
    if next.any Char.isAlpha then Lexeme.startTag cs
    else match next with
      | some '/' => Lexeme.endTag raw cs
      | some '?' => Lexeme.instruction cs
      | some '!' => Lexeme.declaration cs
      | some _ => .found (textOf ['<']) cs.tail
      | none => .incomplete
  match lexeme with
  | .fault reason => .fail reason
  | .found token? rest => .take token? (cs.length - rest.length - 1)
  | .incomplete =>
    if !atEnd || next.isNone then .halt none 0
    else
      let toClose := cs.tail.takeWhile (· != '>')
      let toOpen := cs.tail.takeWhile (· != '<')
      let more := if toClose.length < cs.tail.length then toClose.length + 1
        else if toOpen.length < cs.tail.length then toOpen.length
        else 0
      .take (textOf (cs.take (more + 1))) more

def isEntityChar (c : Char) : Bool :=
  c.isAlphanum || c == '-' || c == '.'

/-- The name of a reference by name, when it is known where the name ends. A name that reaches the end
of the text ends before its last dash or point. -/
def entityName? (cs : List Char) : Option (List Char) :=
  let name := cs.takeWhile isEntityChar
  if name.length < cs.length then some name
  else match (name.reverse.dropWhile Char.isAlphanum).tail.reverse with
    | [] => none
    | shorter => some shorter

/-- The body of a numbered reference, when something follows that is no hexadecimal digit. -/
def numberBody? (cs : List Char) : Option (List Char) :=
  let body := match cs with
    | 'x' :: rest | 'X' :: rest => cs.take (1 + (rest.takeWhile isHexDigit).length)
    | _ => cs.takeWhile Char.isDigit
  let digits := match cs with
    | 'x' :: _ | 'X' :: _ => body.tail
    | _ => body
  if digits = [] then none
  else match cs.drop body.length with
    | [] => none
    | c :: _ => if isHexDigit c then none else some body

/-- A reference with `marks` characters before its body: the semicolon after it is spanned too. -/
def takeReference (token : List Char) (marks : Nat) (cs : List Char) : Action :=
  let length := marks + token.length
  .take (some (.reference (String.ofList (cs.tail.take (length - 1)))))
    (if (cs.drop length).head? = some ';' then length else length - 1)

/-- An ampersand. A reference that cannot be read ends the scan, and what is left counts as text once the
text has ended; of a lone ampersand and one letter only the letter is left. -/
def atAmpersand (atEnd : Bool) (cs : List Char) : Action :=
  match cs.tail with
  | [] => .halt none 0
  | '#' :: rest =>
    match numberBody? rest with
    | some body => takeReference body 2 cs
    | none => if rest.contains ';' then .halt (textOf ['&', '#']) 2 else
        .halt none 0
  | c :: rest =>
    if !c.isAlpha then .take (textOf ['&']) 0
    else match entityName? (c :: rest) with
      | some name => takeReference name 1 cs
      | none => .halt none (if atEnd && rest.isEmpty then 1 else 0)

def isMark (c : Char) : Bool :=
  c == '&' || c == '<'

def action (atEnd : Bool) (raw : Option String) (cs : List Char) : Action :=
  match raw with
  | some name =>
    match rawText? name cs with
    | none => .halt none 0
    | some [] => atAngle atEnd raw cs
    | some (c :: text) => .take (textOf (c :: text)) text.length
  | none =>
    match cs with
    | '<' :: _ => atAngle atEnd raw cs
    | '&' :: _ => atAmpersand atEnd cs
    | _ =>
      let text := cs.takeWhile fun c => !isMark c
      .take (textOf text) (text.length - 1)

/-- The element whose raw text follows a token. -/
def rawAfter (raw : Option String) : Option Token → Option String
  | some (.opening name _ false) => if rawElements.contains name then some name else raw
  | some (.closing _) => none
  | _ => raw

/-- Where a scan stands: the text not yet spanned, where it begins, and the element whose raw text it
is in. -/
structure State where
  pending : List Char := []
  position : Position := {}
  raw : Option String := none

/-- The tokens of a scan, each with the place where it begins, and how the scan ended. -/
structure Result where
  tokens : List (Token × Position)
  ended : Except (Token.Fault × Position) State

def Result.cons (r : Result) (token? : Option Token) (p : Position) : Result :=
  { r with tokens := (token?.map (·, p)).toList ++ r.tokens }

/-- What is left when the scan stops. After the end of the text it is text too, unless it is raw. -/
def leave (atEnd : Bool) (raw : Option String) (p : Position) (cs : List Char) : Result :=
  if atEnd && raw.isNone && !cs.isEmpty then
    ⟨[(.text (String.ofList cs), p)], .ok ⟨[], p.after cs, raw⟩⟩
  else ⟨[], .ok ⟨cs, p, raw⟩⟩

/-- Scans `cs` from `p` on, after `owed` characters that the last token spans. -/
def scanFrom (atEnd : Bool) (raw : Option String) (p : Position) : (owed : Nat) → List Char → Result
  | _, [] => leave atEnd raw p []
  | owed + 1, c :: cs => scanFrom atEnd raw (p.next c) owed cs
  | 0, c :: cs =>
    match action atEnd raw (c :: cs) with
    | .take token? more => (scanFrom atEnd (rawAfter raw token?) (p.next c) more cs).cons token? p
    | .halt token? count =>
      (leave atEnd raw (p.after ((c :: cs).take count)) ((c :: cs).drop count)).cons token? p
    | .fail reason => ⟨[], .error (reason, p)⟩

/-- Scans what was left together with `cs`. -/
def State.scan (s : State) (atEnd : Bool) (cs : List Char) : Result :=
  scanFrom atEnd s.raw s.position 0 (s.pending ++ cs)

end Scan

end LayoutInheritance
