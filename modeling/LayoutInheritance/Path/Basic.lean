/-! Paths by their components. A path has no empty component and none that is a single dot; a parent
component stays until the path is normalised. Exactly two slashes in front are not the same as one. -/

namespace LayoutInheritance

/-- What a path starts from. -/
inductive Anchor where
  | relative | root | doubleRoot
  deriving DecidableEq

def Anchor.text : Anchor → List Char
  | relative => []
  | root => ['/']
  | doubleRoot => ['/', '/']

structure Path where
  anchor : Anchor
  components : List (List Char)
  deriving DecidableEq

namespace Path

/-- The pieces between slashes. -/
def pieces : List Char → List (List Char)
  | [] => [[]]
  | c :: cs =>
    if c = '/' then [] :: pieces cs
    else match pieces cs with
      | [] => [[c]]
      | piece :: rest => (c :: piece) :: rest

def anchorOf : List Char → Anchor
  | '/' :: '/' :: '/' :: _ => .root
  | '/' :: '/' :: _ => .doubleRoot
  | '/' :: _ => .root
  | _ => .relative

/-- Whether a piece counts as a component. -/
def isComponent (piece : List Char) : Bool :=
  !piece.isEmpty && piece != ['.']

def ofChars (cs : List Char) : Path :=
  ⟨anchorOf cs, (pieces cs).filter isComponent⟩

def ofString (s : String) : Path :=
  ofChars s.toList

/-- The relative path without components is a dot. -/
def chars (p : Path) : List Char :=
  if p.anchor = .relative ∧ p.components = [] then ['.']
  else p.anchor.text ++ ['/'].intercalate p.components

def text (p : Path) : String :=
  String.ofList p.chars

/-- Whether the path holds a null character. -/
def hasNull (p : Path) : Bool :=
  p.components.any (·.contains '\x00')

def isAbsolute (p : Path) : Bool :=
  p.anchor != .relative

/-- `q` seen from `p`. -/
def join (p q : Path) : Path :=
  if q.isAbsolute then q else ⟨p.anchor, p.components ++ q.components⟩

def parentComponent : List Char := ['.', '.']

/-- One component more, last component first. A parent component takes the last one away; at the top of
an absolute path there is none to take. -/
def descend (anchor : Anchor) (done : List (List Char)) (piece : List Char) : List (List Char) :=
  if piece ≠ parentComponent then piece :: done
  else match done with
    | [] => if anchor = .relative then [piece] else []
    | last :: rest => if last = parentComponent then piece :: done else rest

/-- The path without parent components, as far as they can be taken back. -/
def normalize (p : Path) : Path :=
  ⟨p.anchor, (p.components.foldl (descend p.anchor) []).reverse⟩

/-- The normal form of `p` seen from the working directory. -/
def absolute (cwd p : Path) : Path :=
  (cwd.join p).normalize

/-- All but the last component. -/
def parent (p : Path) : Path :=
  ⟨p.anchor, p.components.dropLast⟩

/-- The directory of a file name: what stands before its last slash. -/
def directoryOf (filename : String) : Path :=
  ofChars (filename.toList.reverse.dropWhile (· ≠ '/')).reverse

example : (ofString "/a//b/./../c/").text = "/a/b/../c" := by decide
example : (absolute (ofString "/w") (ofString "../../x/..")).text = "/" := by decide
example : (ofString "").text = "." ∧ (ofString "///a").text = "/a" ∧ (ofString "//a").text = "//a" := by
  decide

end Path

end LayoutInheritance
