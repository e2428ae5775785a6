import LayoutInheritance.Markup.Reference
import LayoutInheritance.Markup.Token
import LayoutInheritance.Text.Lowercase

/-! Start tags and end tags. Attributes are read leniently: gaps between them are white space and
slashes, and a quoted value may touch the next attribute. -/

namespace LayoutInheritance.Lexeme

open Text

/-- Characters of an element's name; it begins with an ASCII letter. -/
def isTagNameChar (c : Char) : Bool :=
  !(['\t', '\n', '\r', '\x0c', ' ', '/', '>', '\x00'].contains c)

/-- Characters of an attribute's name, after the first. -/
def isAttributeNameChar (c : Char) : Bool :=
  !isBlank c && c != '/' && c != '=' && c != '>'

/-- Characters after which an attribute may begin. -/
def isSeparator (c : Char) : Bool :=
  isBlank c || c == '/' || c == '\'' || c == '"'

/-- Passes over white space and slashes, but not over a slash that ends the tag. -/
def skipGap : List Char → List Char
  | [] => []
  | c :: rest =>
    if isBlank c || (c == '/' && rest.head? != some '>') then skipGap rest else c :: rest

/-- An unquoted value: everything up to white space or the end of the tag. -/
def bareValue (cs : List Char) : List Char × List Char :=
  cs.span fun c => !isBlank c && c != '>'

/-- The value of an attribute, if one follows its name, and the rest of the text. A quote that is
never closed is no value: it is left to the next attribute when white space precedes it, and a second
equals sign begins a bare value. -/
def attributeValue? (cs : List Char) : Option (List Char × List Char) :=
  let afterName := cs.dropWhile isBlank
  let equals := afterName.takeWhile (· == '=')
  let gap := (afterName.drop equals.length).takeWhile isBlank
  let body := afterName.drop (equals.length + gap.length)
  if equals = [] then none
  else match body with
    | [] => some ([], [])
    | q :: inside =>
      if q == '\'' || q == '"' then
        let value := inside.takeWhile (· != q)
        if value.length < inside.length then some (value, inside.drop (value.length + 1))
        else if gap ≠ [] then some ([], afterName.drop (equals.length + gap.length - 1))
        else if 2 ≤ equals.length then some (bareValue ('=' :: body))
        else none
      else some (bareValue body)

/-- The attributes of a tag, with their values as they are written, and the rest of the text; `free`
says whether one may begin here. The bound is met once it reaches the length of the text. -/
def attributesWithin : (bound : Nat) → (free : Bool) → List Char →
    List (String × List Char) × List Char
  | bound + 1, free, c :: rest =>
    if free && !isBlank c && c != '/' && c != '>' then
      let name := c :: rest.takeWhile isAttributeNameChar
      let afterName := rest.dropWhile isAttributeNameChar
      let (value, rest, free) := match attributeValue? afterName with
        | some (value, rest) => (value, rest, true)
        | none => ([], afterName, isSeparator (name.getLastD c))
      let next := skipGap rest
      let (others, rest) := attributesWithin bound (free || next.length < rest.length) next
      ((lower (String.ofList name), value) :: others, rest)
    else ([], c :: rest)
  | _, _, cs => ([], cs)

/-- Attributes with the references in their values decoded. -/
def decoded (attributes : List (String × List Char)) : Except Nat (List (String × String)) :=
  attributes.mapM fun a => (Reference.decode a.2).map fun value => (a.1, String.ofList value)

/-- The token of a tag that has ended, made of its attributes. -/
def ended (attributes : List (String × List Char)) (token : List (String × String) → Token)
    (rest : List Char) : Lexeme :=
  match decoded attributes with
  | .ok attributes => .found (some (token attributes)) rest
  | .error count => .fault (.overlongNumber count)

/-- A start tag. Where neither an end of the tag nor an attribute can be read, what was passed is
text. -/
def startTag (cs : List Char) : Lexeme :=
  let name := (cs.drop 1).takeWhile isTagNameChar
  let afterName := cs.drop (1 + name.length)
  let next := skipGap afterName
  let free := isSeparator (name.getLastD '<') || next.length < afterName.length
  let (attributes, rest) := attributesWithin next.length free next
  let tag (closed : Bool) := ended attributes (.opening (lower (String.ofList name)) · closed)
  match rest with
  | '>' :: rest => tag false rest
  | '/' :: '>' :: rest => tag true rest
  | [] => .incomplete
  | c :: _ =>
    if c.isAlpha || c == '=' || c == '/' then .incomplete
    else ended attributes (fun _ => .text (String.ofList (cs.take (cs.length - rest.length)))) rest

/-- Characters of a name that makes an end tag a strict one. -/
def isStrictNameChar (c : Char) : Bool :=
  c.isAlphanum || c == '-' || c == '.' || c == ':' || c == '_'

/-- The name of an end tag that holds nothing else. -/
def strictName? (inside : List Char) : Option String :=
  match trimBlank inside with
  | [] => none
  | c :: cs => if c.isAlpha && cs.all isStrictNameChar then some (lower (String.ofList (c :: cs))) else none

/-- An end tag. Inside the raw text of an element only a strict end tag of that element counts, and
all else is text. Elsewhere whatever follows the name is passed over, and an end tag without a name is
a comment. -/
def endTag (raw : Option String) (cs : List Char) : Lexeme :=
  let body := cs.drop 2
  let inside := body.takeWhile (· != '>')
  match body.drop inside.length with
  | [] => .incomplete
  | _ :: rest =>
    let asText := Token.text (String.ofList (cs.take (inside.length + 3)))
    match strictName? inside with
    | some name => .found (some (if raw.all (· == name) then .closing name else asText)) rest
    | none =>
      if raw.isSome then .found (some asText) rest
      else match inside with
        | [] => .found none rest
        | c :: _ =>
          .found (some (if c.isAlpha then .closing (lower (String.ofList (inside.takeWhile isTagNameChar)))
            else .comment (String.ofList inside))) rest

end LayoutInheritance.Lexeme
