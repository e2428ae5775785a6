import LayoutInheritance.Decimal.Reading
import LayoutInheritance.Text.Quoted

/-! The tokens of an HTML text, and what has no token and stops the reading: some declarations, and
numbers in attributes that are too long. -/

namespace LayoutInheritance

inductive Token where
  /-- A start tag; `closed` when it ends in a slash and so takes no content. -/
  | opening (name : String) (attributes : List (String × String)) (closed : Bool)
  | closing (name : String)
  | text (value : String)
  /-- A character reference, without its ampersand and semicolon. -/
  | reference (body : String)
  | comment (value : String)
  | doctype (value : String)
  deriving DecidableEq

/-- Why a declaration or a start tag cannot be read. -/
inductive Token.Fault where
  | unsupported (declaration : String)
  /-- A marked section opens without a name; `excerpt` is what stands there. -/
  | nameExpected (excerpt : String)
  | unknownSection (keyword : String)
  /-- An attribute refers to a character by a decimal number with too many digits. -/
  | overlongNumber (count : Nat)
  deriving DecidableEq

def Token.Fault.message : Token.Fault → String
  | unsupported declaration => "Unsupported declaration: <![" ++ declaration ++ "]>"
  | nameExpected excerpt => "expected name token at " ++ Text.quoted excerpt
  | unknownSection keyword => "unknown status keyword " ++ Text.quoted keyword ++ " in marked section"
  | overlongNumber count => Decimal.overlongMessage count

/-- What begins at a place of the text, and what is left of the text after it. -/
inductive Lexeme where
  /-- Its end is not there yet. -/
  | incomplete
  /-- Some constructs are passed over without a token. -/
  | found (token? : Option Token) (rest : List Char)
  | fault (reason : Token.Fault)

end LayoutInheritance
