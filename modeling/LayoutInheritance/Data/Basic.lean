import LayoutInheritance.Dictionary

/-! Plain data, as reports and error contexts hold it. -/

namespace LayoutInheritance

inductive Data where
  | null
  | bool (b : Bool)
  | int (n : Int)
  | float (x : Float)
  | text (s : String)
  | list (items : List Data)
  | map (entries : List (String × Data))
  deriving Inhabited

end LayoutInheritance
