import LayoutInheritance.Data.Basic
import LayoutInheritance.Markup.Basic

/-! What can be wrong with a document, a layout or a configuration, and how each such issue is worded.
An issue in the inheritance of layouts says where it stands, both in its message and in its context. -/

namespace LayoutInheritance

inductive Issue where
  | general (message : String) (context : Dictionary String Data)
  | config (message : String) (context : Dictionary String Data)
  | markup (message : String) (location? : Option Location)
  | inheritance (message : String) (location? : Option Location) (plugin : String)
      (context : Dictionary String Data)
  | missingSource (location? : Option Location)
  | missingBlockName (location? : Option Location)
  | unmatchedBlock (name : String) (location? : Option Location)
  | circular (chain : List String) (location? : Option Location)
  deriving Inhabited

namespace Issue

/-- Who reports issues of inheritance unless they say otherwise. -/
def defaultPlugin : String := "layouts"

def location? : Issue → Option Location
  | general .. | config .. => none
  | markup _ l | inheritance _ l _ _ | missingSource l | missingBlockName l | unmatchedBlock _ l
  | circular _ l => l

/-- Whether the issue is one of inheritance, which says where it stands. -/
def isInheritance : Issue → Bool
  | general .. | config .. | markup .. => false
  | _ => true

def plugin : Issue → String
  | inheritance _ _ plugin _ => plugin
  | _ => defaultPlugin

/-- The word that reports use for the kind of an issue. -/
def code : Issue → String
  | general .. => "LayoutsError"
  | config .. => "ConfigError"
  | markup .. => "ParseError"
  | inheritance .. => "ExtendsError"
  | missingSource _ => "MissingSourceAttributeError"
  | missingBlockName _ => "MissingBlockNameError"
  | unmatchedBlock .. => "UnmatchedTemplateBlockError"
  | circular .. => "CyclicInheritanceError"

/-- The description without the place. -/
def description : Issue → String
  | general message _ | config message _ | markup message _ | inheritance message _ _ _ => message
  | missingSource _ => "Extends tag has no 'src' attribute"
  | missingBlockName _ => "'block' element is missing a 'name' attribute"
  | unmatchedBlock name _ => "Block \"" ++ name ++ "\" doesn't exist in the layout template"
  | circular chain _ => "Circular extends detected: " ++ " -> ".intercalate chain

def message (issue : Issue) : String :=
  match issue.location? with
  | some l => if issue.isInheritance then issue.description ++ " (" ++ l.text ++ ")" else issue.description
  | none => issue.description

/-- What the issue itself puts into its context. -/
def details : Issue → Dictionary String Data
  | general _ context | config _ context | inheritance _ _ _ context => context
  | unmatchedBlock name _ => [("block", .text name)]
  | circular chain _ => [("chain", .list (chain.map .text))]
  | _ => []

/-- The details, then the plugin and the place where these are not among the details. -/
def context (issue : Issue) : Dictionary String Data :=
  let named := if issue.isInheritance then issue.details.putNew "plugin" (.text issue.plugin)
    else issue.details
  match issue.location? with
  | some l => named.putNew "location" (.text l.text)
  | none => named

end Issue

end LayoutInheritance
