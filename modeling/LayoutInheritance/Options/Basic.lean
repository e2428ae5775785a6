import LayoutInheritance.Path.Basic

/-! The options of a run: where layouts are looked up, and the encoding of what is read. -/

namespace LayoutInheritance

def defaultEncoding : String := "utf-8"

structure Options where
  /-- The directory that layout sources are relative to. Without one it is derived from the document. -/
  root : Option Path := none
  encoding : String := defaultEncoding
  deriving DecidableEq

namespace Options

/-- An empty encoding means the default one. -/
def withEncoding (o : Options) (encoding : String) : Options :=
  { o with encoding := if encoding.isEmpty then defaultEncoding else encoding }

def withRoot (o : Options) (root : Path) : Options :=
  { o with root := some root }

/-- The root that counts for a document: the given one, else the directory of a named document, else the
working directory. -/
def rootFor (o : Options) (filename : Option String) : Path :=
  match o.root, filename with
  | some root, _ => root
  | none, none | none, some "" => Path.ofString "."
  | none, some name => Path.directoryOf name

/-- The options with the root filled in and made absolute. -/
def resolveFor (o : Options) (cwd : Path) (filename : Option String) : Options :=
  o.withRoot (cwd.absolute (o.rootFor filename))

end Options

end LayoutInheritance
