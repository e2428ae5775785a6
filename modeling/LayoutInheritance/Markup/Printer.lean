import LayoutInheritance.Markup.Basic
import LayoutInheritance.Text.Quoted

/-! Documents written as HTML, and the short description of one node. Texts, comments and doctypes are
written as they stand; only attribute values are escaped. -/

namespace LayoutInheritance

/-- Elements that have no end tag unless they were given content. -/
def voidElements : List String :=
  ["area", "base", "br", "col", "embed", "hr", "img", "input", "link", "meta", "param", "source",
   "track", "wbr"]

def isVoidElement (name : String) : Bool :=
  voidElements.contains name

/-- Escapes the ampersand and the double quote, all that a quoted value needs. -/
def escapeAttribute (value : String) : String :=
  String.ofList (value.toList.flatMap fun c =>
    if c = '&' then "&amp;".toList else if c = '"' then "&quot;".toList else [c])

/-- The texts among the parts of an attribute value, joined. -/
def attributeText (parts : List Markup) : String :=
  String.join (parts.map fun part =>
    if part.head.kind = .text then part.head.value.getD "" else "")

namespace Head

/-- A tag without a name prints one all the same. -/
def tagName (h : Head Markup) : String :=
  h.name.getD "None"

def startTag (h : Head Markup) : String :=
  "<" ++ h.tagName ++ String.join (h.attributes.map fun a =>
    " " ++ a.1 ++ "=\"" ++ escapeAttribute (attributeText a.2) ++ "\"") ++ ">"

def endTag (h : Head Markup) : String :=
  "</" ++ h.tagName ++ ">"

def isVoid (h : Head Markup) : Bool :=
  h.name.any isVoidElement

/-- A node around its rendered content; `empty` says that there is none. -/
def render (h : Head Markup) (empty : Bool) (inner : String) : String :=
  match h.kind with
  | .text => h.value.getD ""
  | .comment => "<!--" ++ h.value.getD "" ++ "-->"
  | .doctype => "<!" ++ h.value.getD "" ++ ">"
  | .tag => if h.isVoid && empty then h.startTag else h.startTag ++ inner ++ h.endTag

end Head

namespace Markup

mutual

def render : Markup → String
  | leaf h => h.render true ""
  | branch h content => h.render content.isEmpty (renderAll content)

def renderAll : List Markup → String
  | [] => ""
  | node :: rest => node.render ++ renderAll rest

end

/-- The quoted text, or the word for its absence. -/
def described (s : Option String) : String :=
  (s.map Text.quoted).getD "None"

/-- One line on a node: a tag's name, its attribute names in order of code points, and how many
children it has; of any other node its text. -/
def describe (node : Markup) : String :=
  let h := node.head
  let said (kind : String) := "Node(" ++ kind ++ "=" ++ described h.value ++ ")"
  match h.kind with
  | .text => said "text"
  | .comment => said "comment"
  | .doctype => said "doctype"
  | .tag =>
    let keys := (h.attributes.map Prod.fst).mergeSort fun a b => decide (a ≤ b)
    "Node(tag=" ++ described h.name ++ ", attrs=" ++ Text.quotedList keys ++ ", children="
      ++ toString (node.content?.getD []).length ++ ")"

end Markup

end LayoutInheritance
