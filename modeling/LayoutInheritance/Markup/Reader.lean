import LayoutInheritance.Markup.Builder

/-! Reading a document from its text, at once or part by part. -/

namespace LayoutInheritance

/-- Why a text is no document. -/
inductive MarkupFault where
  | unsupported (declaration : String) (location : Location)
  | malformed (reason : Token.Fault)

/-- A text that is being read. -/
structure Reader where
  builder : Builder
  scan : Scan.State := {}

namespace Reader

def start (filename : Option String) : Reader :=
  { builder := { filename } }

def faultAt (b : Builder) (reason : Token.Fault) (p : Position) : MarkupFault :=
  match reason with
  | .unsupported declaration => .unsupported declaration (b.place p)
  | _ => .malformed reason

/-- Reads one more part. A fault leaves what was read before it. -/
def advance (r : Reader) (atEnd : Bool) (part : List Char) : Reader × Option MarkupFault :=
  let result := r.scan.scan atEnd part
  let builder := r.builder.pushAll result.tokens
  match result.ended with
  | .ok scan => (⟨builder, scan⟩, none)
  | .error (reason, p) => (⟨builder, r.scan⟩, some (faultAt builder reason p))

def feed (r : Reader) (part : String) : Reader × Option MarkupFault :=
  r.advance false part.toList

/-- The end of the text. -/
def finish (r : Reader) : Reader × Option MarkupFault :=
  r.advance true []

end Reader

/-- What reading a text gives: its document, and the end tags that closed nothing, in order. -/
structure Reading where
  document : Except MarkupFault (List Markup)
  strays : List (String × Location)

/-- Reads a whole text. The end of the text closes the elements that are still open. -/
def Markup.read (text : String) (filename : Option String := none) : Reading :=
  let done (r : Reader) (fault? : Option MarkupFault) : Reading :=
    ⟨match fault? with | some fault => .error fault | none => .ok r.builder.tree,
      r.builder.strays.reverse⟩
  match (Reader.start filename).feed text with
  | (r, some fault) => done r (some fault)
  | (r, none) => let (r, fault?) := r.finish; done r fault?

def Markup.parse (text : String) (filename : Option String := none) : Except MarkupFault (List Markup) :=
  (Markup.read text filename).document

end LayoutInheritance
