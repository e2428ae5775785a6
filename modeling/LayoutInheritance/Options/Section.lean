import LayoutInheritance.Yaml.Document.Shown

/-! The part of a configuration file that concerns layouts. It is a mapping with a root and an encoding,
either of which may be missing, and both of which are texts that are not empty. Which documents are of this
form is one question, and how a document that is not is faulted is another, which a checker answers. -/

namespace LayoutInheritance

open Yaml (Value)

/-- What a configuration file says about layouts. -/
structure Section where
  root : Option String := none
  encoding : Option String := none
  deriving DecidableEq

/-- Where a file departs from the form, and how. -/
structure Section.Fault where
  field : String
  message : String
  deriving DecidableEq

namespace Section

def sectionName : String := "layouts"

def fieldNames : List String := ["root", "encoding"]

/-- Whether a value may stand in a field. -/
def isFieldValue : Value → Bool
  | .text s => !s.isEmpty
  | _ => false

/-- The form of the entries at the top of a document, whatever stands among them beside the section. -/
def Conforms (d : Yaml.Document) (entries : Dictionary Value Value) : Prop :=
  ∀ v ∈ entries.get? (.text sectionName), ∃ fields, d.entries? v = some fields ∧
    (∀ e ∈ fields, ∃ name ∈ fieldNames, e.1 = .text name) ∧
    ∀ name ∈ fieldNames, ∀ w ∈ fields.get? (.text name), isFieldValue w

/-- The text in a field. -/
def text? (fields : Dictionary Value Value) (name : String) : Option String :=
  match fields.get? (.text name) with
  | some (.text s) => some s
  | _ => none

/-- The section among entries that are of the form. -/
def ofEntries (d : Yaml.Document) (entries : Dictionary Value Value) : Section :=
  match (entries.get? (.text sectionName)).bind d.entries? with
  | none => {}
  | some fields => { root := text? fields "root", encoding := text? fields "encoding" }

/-! ### A checker -/

/-- The keys that are no fields, in the order of their texts. -/
def extras (entries : Dictionary Value Value) : List Value :=
  ((entries.map Prod.fst).filter fun k => !fieldNames.any fun name => k == .text name).mergeSort
    fun a b => decide (a.plainText ≤ b.plainText)

def extrasMessage (keys : List Value) : String :=
  "Additional properties are not allowed (" ++ ", ".intercalate (keys.map Value.shown)
    ++ (if keys.length = 1 then " was" else " were") ++ " unexpected)"

/-- What is wrong with a field that has to be a text, and not an empty one. -/
def fieldFault? (d : Yaml.Document) (fields : Dictionary Value Value) (name : String) : Option Fault :=
  let fault (message : String) : Fault := ⟨sectionName ++ "/" ++ name, message⟩
  match fields.get? (.text name) with
  | none => none
  | some (.text s) => if s.isEmpty then some (fault "'' should be non-empty") else none
  | some v => some (fault (d.shown v ++ " is not of type 'string'"))

/-- What is wrong with the section among the entries of a document. Unknown fields are reported before
fields of a wrong form, and the root before the encoding. -/
def fault? (d : Yaml.Document) (entries : Dictionary Value Value) : Option Fault :=
  match entries.get? (.text sectionName) with
  | none => none
  | some v =>
    match d.entries? v with
    | none => some ⟨sectionName, d.shown v ++ " is not of type 'object'"⟩
    | some fields =>
      match extras fields with
      | [] => fieldNames.findSome? (fieldFault? d fields)
      | keys => some ⟨sectionName, extrasMessage keys⟩

variable {d : Yaml.Document} {fields entries : Dictionary Value Value} {name : String} {v : Value}

theorem isFieldValue_iff : isFieldValue v ↔ ∃ s, v = .text s ∧ s ≠ "" := by
  cases v <;> simp [isFieldValue]

theorem fieldFault?_eq_none :
    fieldFault? d fields name = none ↔ ∀ w ∈ fields.get? (.text name), isFieldValue w := by
  rw [fieldFault?]
  split
  · next h => simp [h]
  · next s h => simp [h, isFieldValue]
  · next v hv h =>
    refine iff_of_false nofun fun hvalue => ?_
    obtain ⟨s, hs, -⟩ := isFieldValue_iff.1 (hvalue v h)
    exact hv s hs

theorem extras_eq_nil : extras fields = [] ↔ ∀ e ∈ fields, ∃ name ∈ fieldNames, e.1 = .text name := by
  rw [extras, ← List.length_eq_zero_iff, (List.mergeSort_perm _ _).length_eq, List.length_eq_zero_iff,
    List.filter_eq_nil_iff, List.forall_mem_map]
  simp only [Bool.not_eq_true', Bool.not_eq_false, List.any_eq_true, Value.beq_text]

/-- The checker faults what is not of the form, and nothing else. -/
theorem fault?_eq_none : fault? d entries = none ↔ Conforms d entries := by
  rw [fault?, Conforms]
  split
  · next h => simp [h]
  · next v h =>
    simp only [h, Option.mem_some_iff, forall_eq']
    split
    · next hf => simp [hf]
    · next fields hf =>
      simp only [hf, Option.some.injEq, exists_eq_left', ← extras_eq_nil]
      split
      · next hextras => simp [hextras, fieldFault?_eq_none]
      · next keys hkeys => exact iff_of_false nofun fun h => hkeys h.1

end Section

end LayoutInheritance
