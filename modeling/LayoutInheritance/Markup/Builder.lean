import LayoutInheritance.Markup.Printer
import LayoutInheritance.Markup.Token.Scan

/-! A document grows from its tokens. The elements still open are a stack, innermost first, and each
keeps its children last first, so a new node always goes to the front of one list. -/

namespace LayoutInheritance

/-- An element that is still open. -/
structure OpenElement where
  head : Head Markup
  /-- Its children so far, last first. -/
  children : List Markup := []

structure Builder where
  filename : Option String
  /-- The nodes outside all open elements, last first. -/
  root : List Markup := []
  /-- The open elements, innermost first. -/
  opened : List OpenElement := []
  /-- End tags that matched no open element, last first. -/
  strays : List (String × Location) := []

namespace Builder

/-- Puts a text onto the text node that ends the list, or begins a new one. -/
def addText (value : String) (location : Location) : List Markup → List Markup
  | .leaf h :: rest =>
    if h.kind = .text then .leaf { h with value := some (h.value.getD "" ++ value) } :: rest
    else .text value location :: .leaf h :: rest
  | nodes => .text value location :: nodes

/-- Changes the children of the innermost open element. -/
def mapChildren (b : Builder) (f : List Markup → List Markup) : Builder :=
  match b.opened with
  | [] => { b with root := f b.root }
  | e :: outer => { b with opened := { e with children := f e.children } :: outer }

def add (b : Builder) (node : Markup) : Builder :=
  b.mapChildren (node :: ·)

/-- The innermost open element becomes a node of the one around it. -/
def closeInnermost (b : Builder) : Builder :=
  match b.opened with
  | [] => b
  | e :: outer => { b with opened := outer }.add (.branch e.head e.children.reverse)

def closeMany (b : Builder) : (count : Nat) → Builder
  | 0 => b
  | count + 1 => b.closeInnermost.closeMany count

/-- An end tag closes the innermost element of its name and all that are open inside it. -/
def close (b : Builder) (name : String) (location : Location) : Builder :=
  match b.opened.findIdx? fun e => e.head.name == some name with
  | some i => b.closeMany (i + 1)
  | none => { b with strays := (name, location) :: b.strays }

/-- The head of a tag; an attribute given twice keeps its first place and its last value. -/
def tagHead (name : String) (attributes : List (String × String)) (location : Location) : Head Markup :=
  { kind := .tag, name, location
    attributes := Dictionary.ofList (attributes.map fun a => (a.1, [Markup.text a.2 location])) }

def place (b : Builder) (p : Position) : Location :=
  ⟨b.filename, p.line, p.column⟩

def push (b : Builder) (token : Token) (p : Position) : Builder :=
  let location := b.place p
  match token with
  | .opening name attributes closed =>
    let head := tagHead name attributes location
    if closed || isVoidElement name then b.add (.leaf head)
    else { b with opened := { head } :: b.opened }
  | .closing name => b.close name location
  | .text value => b.mapChildren (addText value location)
  | .reference body => b.mapChildren (addText ("&" ++ body ++ ";") location)
  | .comment value => b.add (.comment value location)
  | .doctype value => b.add (.leaf { kind := .doctype, value, location })

def pushAll (b : Builder) (tokens : List (Token × Position)) : Builder :=
  tokens.foldl (fun b t => b.push t.1 t.2) b

/-- The document so far, with every open element closed. -/
def tree (b : Builder) : List Markup :=
  (b.closeMany b.opened.length).root.reverse

end Builder

end LayoutInheritance
