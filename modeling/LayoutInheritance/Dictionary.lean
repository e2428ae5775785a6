/-! Dictionaries that keep their keys in the order of first insertion. A key that is put again keeps
its place and takes the new value. -/

namespace LayoutInheritance

variable {κ α : Type} [BEq κ]

/-- Keys with their values, each key once. -/
abbrev Dictionary (κ α : Type) := List (κ × α)

namespace Dictionary

def get? (d : Dictionary κ α) (key : κ) : Option α :=
  List.lookup key d

def has (d : Dictionary κ α) (key : κ) : Bool :=
  (d.get? key).isSome

def put : Dictionary κ α → κ → α → Dictionary κ α
  | [], key, value => [(key, value)]
  | (k, v) :: rest, key, value =>
    if key == k then (k, value) :: rest else (k, v) :: put rest key value

/-- The entries of `e` put into `d` one after the other. -/
def update (d e : Dictionary κ α) : Dictionary κ α :=
  e.foldl (fun d entry => d.put entry.1 entry.2) d

def ofList (entries : List (κ × α)) : Dictionary κ α :=
  update [] entries

def remove (d : Dictionary κ α) (key : κ) : Dictionary κ α :=
  d.filter fun entry => !(entry.1 == key)

/-- Puts the entry only where the key is new. -/
def putNew (d : Dictionary κ α) (key : κ) (value : α) : Dictionary κ α :=
  if d.has key then d else d ++ [(key, value)]

@[simp] theorem get?_nil (key : κ) : get? ([] : Dictionary κ α) key = none := rfl

theorem get?_cons (k key : κ) (v : α) (d : Dictionary κ α) :
    get? ((k, v) :: d) key = if key == k then some v else d.get? key := by
  simp only [get?, List.lookup_cons]
  cases key == k <;> rfl

theorem get?_put [LawfulBEq κ] (d : Dictionary κ α) (key key' : κ) (value : α) :
    (d.put key value).get? key' = if key' == key then some value else d.get? key' := by
  induction d with
  | nil => simp [put, get?_cons]
  | cons entry rest ih =>
    obtain ⟨k, v⟩ := entry
    by_cases h : key = k
    · subst h
      by_cases h' : key' = key <;> simp [put, get?_cons, h']
    · by_cases h' : key' = k
      · subst h'
        simp [put, get?_cons, h, Ne.symm h]
      · simp [put, get?_cons, h, h', ih]

theorem keys_put [LawfulBEq κ] (d : Dictionary κ α) (key : κ) (value : α) :
    (d.put key value).map Prod.fst
      = if key ∈ d.map Prod.fst then d.map Prod.fst else d.map Prod.fst ++ [key] := by
  induction d with
  | nil => simp [put]
  | cons entry rest ih =>
    obtain ⟨k, v⟩ := entry
    by_cases h : key = k
    · simp [put, h]
    · by_cases hr : key ∈ rest.map Prod.fst <;> simp_all [put]

end Dictionary

end LayoutInheritance
