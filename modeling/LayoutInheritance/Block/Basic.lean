import LayoutInheritance.Markup.Basic
import LayoutInheritance.Text.Lowercase

/-! Blocks: the places of a layout that a template may fill, and the ways of filling them. -/

namespace LayoutInheritance

def blockTag : String := "block"

/-- How a template's block combines with the layout's block of the same name. -/
inductive BlockType where
  | replace | prepend | append
  deriving DecidableEq

namespace BlockType

def name : BlockType → String
  | replace => "replace"
  | prepend => "prepend"
  | append => "append"

/-- A type in any case; an unknown one replaces. -/
def ofName (name : String) : BlockType :=
  match Text.lower name with
  | "prepend" => prepend
  | "append" => append
  | _ => replace

/-- The type that a block's `type` attribute asks for. -/
def ofHead (h : Head Markup) : BlockType :=
  ofName ((h.attribute? "type").getD "")

/-- The content of a filled block. -/
def combine {α : Type} (type : BlockType) (template layout : List α) : List α :=
  match type with
  | replace => template
  | prepend => template ++ layout
  | append => layout ++ template

end BlockType

def Head.isBlock {α : Type} (h : Head α) : Bool :=
  h.isTagNamed blockTag

end LayoutInheritance
