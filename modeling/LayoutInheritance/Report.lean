import LayoutInheritance.Data.Json
import LayoutInheritance.Issue

/-! Reports of a result or of an error, for a reader or, as JSON, for another program. -/

namespace LayoutInheritance

/-- How reports are written. -/
structure Reporter where
  json : Bool := false
  indent : Nat := 2
  deriving DecidableEq

namespace Reporter

def successStatus : String := "success"

def errorCode : String := "error"

def line (r : Reporter) (data : Dictionary String Data) (message : String) : String :=
  (if r.json then (Data.map data).json r.indent else message) ++ "\n"

/-- A result: its data after a status, or a message. -/
def success (r : Reporter) (data : Dictionary String Data) (message : String)
    (status : String := successStatus) : String :=
  r.line (Dictionary.update [("status", .text status)] data) message

/-- An error by its code and its message, with a context where there is one. -/
def failure (r : Reporter) (code message : String) (context? : Option (Dictionary String Data)) : String :=
  let context := match context? with
    | some context => [("context", Data.map context)]
    | none => []
  r.line ([("error", .text code), ("message", .text message)] ++ context) ("Error: " ++ message)

/-- A message may take the place of the error's own one, unless it is empty. -/
def messageFor (given? : Option String) (own : String) : String :=
  match given? with
  | none | some "" => own
  | some given => given

def issue (r : Reporter) (issue : Issue) (given? : Option String := none)
    (code : String := issue.code) : String :=
  r.failure code (messageFor given? issue.message) (some issue.context)

end Reporter

end LayoutInheritance
