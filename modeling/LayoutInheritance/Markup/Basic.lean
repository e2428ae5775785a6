import LayoutInheritance.Dictionary

/-! The nodes of a document and where they come from. A document is a list of sibling nodes. A node
with an empty content differs from a node without content, and an attribute's value is a small
document of its own. -/

namespace LayoutInheritance

/-- Where a node begins: its file, if it has one, and the line and column, both counted from one. -/
structure Location where
  filename : Option String := none
  line : Int := 1
  column : Int := 1
  deriving DecidableEq, Inhabited

/-- A location without a file, or with an empty file name, stands in the input. -/
def Location.text (l : Location) : String :=
  let file := match l.filename with
    | none | some "" => "<input>"
    | some name => name
  file ++ ":" ++ toString l.line ++ ":" ++ toString l.column

inductive Kind where
  | tag | text | comment | doctype
  deriving DecidableEq, Inhabited

/-- Everything about a node but its content. The `value` is what a text, comment or doctype says. -/
structure Head (α : Type) where
  kind : Kind
  name : Option String := none
  attributes : List (String × List α) := []
  value : Option String := none
  location : Location := {}
  deriving Inhabited

inductive Markup where
  | leaf (head : Head Markup)
  | branch (head : Head Markup) (content : List Markup)
  deriving Inhabited

namespace Markup

def head : Markup → Head Markup
  | leaf h => h
  | branch h _ => h

def content? : Markup → Option (List Markup)
  | leaf _ => none
  | branch _ content => some content

def ofContent? (h : Head Markup) : Option (List Markup) → Markup
  | none => leaf h
  | some content => branch h content

def text (value : String) (location : Location := {}) : Markup :=
  leaf { kind := .text, value, location }

def comment (value : String) (location : Location := {}) : Markup :=
  leaf { kind := .comment, value, location }

/-- A tag whose attributes are plain texts, each placed where the tag is. -/
def tag (name : String) (attributes : Dictionary String String := [])
    (content : Option (List Markup) := none) (location : Location := {}) : Markup :=
  ofContent? { kind := .tag, name, location,
               attributes := attributes.map fun a => (a.1, [text a.2 location]) } content

end Markup

namespace Head

variable {α : Type}

def isTag (h : Head α) : Bool :=
  h.kind = .tag

def isTagNamed (h : Head α) (name : String) : Bool :=
  h.isTag && h.name == some name

def hasAttribute (h : Head α) (key : String) : Bool :=
  Dictionary.has h.attributes key

/-- The text of an attribute is that of its first part; an attribute without parts is empty. -/
def attribute? (h : Head Markup) (key : String) : Option String :=
  (Dictionary.get? h.attributes key).map fun
    | [] => ""
    | part :: _ => part.head.value.getD ""

end Head

end LayoutInheritance
