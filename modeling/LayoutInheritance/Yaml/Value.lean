import LayoutInheritance.Decimal.Shortest
import LayoutInheritance.Dictionary
import LayoutInheritance.Yaml.Timestamp

/-! The values of YAML documents. A collection is known by its number in its document, so that it may stand
in several places, and in itself. -/

namespace LayoutInheritance.Yaml

inductive Value where
  | null
  | bool (b : Bool)
  | int (n : Int)
  /-- A floating-point number, which may be infinite. -/
  | float (x : Float)
  /-- What is no number. All that are written by its name are one, any other is that of its node. -/
  | notANumber (node : Option Nat)
  | text (s : String)
  | timestamp (t : Timestamp)
  | bytes (bs : List UInt8)
  | collection (number : Nat)
  deriving Inhabited

/-- What makes two values the same key. -/
inductive Key where
  | null
  | whole (n : Int)
  /-- A number that is not whole, or infinite, by its bits. -/
  | fraction (bits : UInt64)
  | notANumber (node : Option Nat)
  | text (s : String)
  /-- A date, or a date and time without a zone. -/
  | timestamp (t : Timestamp)
  | instant (seconds : Int) (fraction : Nat)
  | bytes (bs : List UInt8)
  deriving DecidableEq

namespace Value

/-- A floating-point number that is whole, as such. -/
def whole? (x : Float) : Option Int :=
  let b := Decimal.ofBits x.toBits
  let size : Nat := b.mantissa * Nat.pow 2 b.exponent.toNat
  let unit : Nat := Nat.pow 2 (-b.exponent).toNat
  if x.isFinite && size % unit == 0 then
    some (if x < 0 then -(size / unit : Nat) else (size / unit : Nat))
  else none

/-- Only values that never change may be keys. Numbers, and truth values among them, are compared by what
they count, times with zones by the instant. -/
def key? : Value → Option Key
  | null => some .null
  | bool b => some (.whole (if b then 1 else 0))
  | int n => some (.whole n)
  | float x =>
    match whole? x with
    | some n => some (.whole n)
    | none => some (.fraction x.toBits)
  | notANumber node => some (.notANumber node)
  | text s => some (.text s)
  | timestamp t =>
    match t.instant? with
    | some (seconds, fraction) => some (.instant seconds fraction)
    | none => some (.timestamp t)
  | bytes bs => some (.bytes bs)
  | collection _ => none

instance : BEq Value := ⟨fun v w => v.key? == w.key?⟩

theorem key?_eq_text {v : Value} {s : String} : v.key? = some (.text s) ↔ v = .text s := by
  refine ⟨fun h => ?_, fun h => h ▸ rfl⟩
  cases v with
  | text => cases h; rfl
  | float | timestamp =>
    rw [key?] at h
    split at h <;> cases h
  | _ => cases h

/-- No other value is the same key as a text. -/
theorem beq_text {v : Value} {s : String} : (v == Value.text s) = true ↔ v = .text s := by
  change (v.key? == some (Key.text s)) = true ↔ _
  rw [beq_iff_eq, key?_eq_text]

/-- A number that belongs to a node. -/
def ofFloat (node : Nat) (x : Float) : Value :=
  if x.isNaN then notANumber (some node) else float x

end Value

/-- What a collection holds. A set and a mapping have each key once. -/
inductive Collection where
  | list (items : List Value)
  | map (entries : Dictionary Value Value)
  | set (items : List Value)
  /-- A mapping by its pairs, in order, in which a key may come again. -/
  | pairs (entries : List (Value × Value))

namespace Collection

/-- How many places a set has for its members: a power of two, and more than twice as many as members once
those are more than four. -/
def places (count : Nat) : Nat :=
  if count ≤ 4 then 8 else Nat.pow 2 ((2 * count).log2 + 1)

def whole? (v : Value) : Option Int :=
  match v.key? with
  | some (.whole n) => some n
  | _ => none

/-- A set of members that are all different. Whole numbers stand in the order of their remainders by the
number of places, anything else in the order in which it comes. -/
def ofMembers (items : List Value) : Collection :=
  if items.all fun v => (whole? v).isSome then
    let place (v : Value) : Int := (whole? v).getD 0 % (places items.length : Nat)
    set (items.mergeSort fun v w => decide (place v ≤ place w))
  else set items

end Collection

/-- A value with all the collections that it reaches. A text without a document counts as null. -/
structure Document where
  root : Value := .null
  collections : Array Collection := #[]

namespace Document

def collection? (d : Document) : Value → Option Collection
  | .collection number => d.collections[number]?
  | _ => none

/-- The entries of a mapping. -/
def entries? (d : Document) (v : Value) : Option (Dictionary Value Value) :=
  match d.collection? v with
  | some (.map entries) => some entries
  | _ => none

end Document

end LayoutInheritance.Yaml
