import Turnstile.SortedMap
/-! JSON values. Whole numbers and doubles are kept apart, and the members of
an object stand in increasing key order, each key once. -/
namespace Turnstile

inductive Json where
  | null
  | bool (b : Bool)
  | int (n : Int)
  | float (x : Float)
  | string (s : String)
  | array (items : List Json)
  | object (members : List (String × Json))
  deriving BEq, Repr

namespace Json

instance : Inhabited Json := ⟨.null⟩

def ofMembers (members : List (String × Json)) : Json :=
  .object (SortedMap.ofList members).entries

def member? (j : Json) (name : String) : Option Json :=
  match j with
  | .object members => SortedMap.lookup name members
  | _ => none

def string? : Json → Option String
  | .string s => some s
  | _ => none

end Json
end Turnstile
