import LayoutInheritance.Yaml.Number
import LayoutInheritance.Yaml.Timestamp

/-! Why a YAML text has no value. -/

namespace LayoutInheritance.Yaml

inductive Fault where
  /-- The text departs from the grammar, or a node from what its tag asks for. -/
  | malformed
  /-- An escape of a number beyond the last code point, and one that is not even looked up. -/
  | codePoint | hugeCodePoint
  | number (fault : Number.Fault)
  | notTruth (text : String)
  | notTimestamp
  /-- A timestamp as the default value of a mapping. -/
  | timestampInMapping
  | calendar (fault : Timestamp.Fault)
  deriving DecidableEq

/-- What is malformed has no message of its own. -/
def Fault.message : Fault → String
  | malformed => ""
  | codePoint => "chr() arg not in range(0x110000)"
  | hugeCodePoint => "Python int too large to convert to C int"
  | number fault => fault.message
  | notTruth text => Text.quoted text
  | notTimestamp => "'NoneType' object has no attribute 'groupdict'"
  | timestampInMapping => "expected string or bytes-like object, got 'list'"
  | calendar fault => fault.message

/-- What is missing is malformed. -/
def orMalformed {α : Type} : Option α → Except Fault α
  | some x => .ok x
  | none => .error .malformed

end LayoutInheritance.Yaml
