import LayoutInheritance.Inheritance.Run
import LayoutInheritance.Log.Basic

/-! What a run logs: one record for each event that a reader may want to follow. -/

namespace LayoutInheritance

/-- How a document is called in records. -/
def documentName (filename : Option String) : String :=
  match filename with
  | none | some "" => "<input>"
  | some name => name

namespace Event

/-- The record of an event, if it has one. -/
def record? : Event → Option Log.Record
  | resolving document root =>
    some ⟨"layouts.core.plugin", Log.debug,
      "Resolving layouts for " ++ documentName document ++ " (root=" ++ root ++ ")"⟩
  | loading path _ document =>
    some ⟨"layouts.core.resolver", Log.debug,
      "Loading layout " ++ path ++ " (from " ++ documentName document ++ ")"⟩
  | stray tag l =>
    some ⟨"layouts.html.parser", Log.debug, "Ignoring stray end tag </" ++ tag ++ "> at " ++ l.text⟩
  | merged block type =>
    some ⟨"layouts.core.blocks", Log.debug,
      "Merged block " ++ Text.quoted block ++ " (" ++ type.name ++ ")"⟩
  | parsing _ | entered _ | left _ | depends _ | merging .. => none

end Event

def Run.records (r : Run) : List Log.Record :=
  r.history.filterMap Event.record?

end LayoutInheritance
