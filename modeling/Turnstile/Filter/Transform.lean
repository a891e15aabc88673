import Turnstile.Json.Basic
import Turnstile.Text.Blank
import Turnstile.Text.Case
import Turnstile.Text.Search
/-! The transforms of the filter language. The subject is the first argument;
one that is missing or of another type reads as empty. -/
namespace Turnstile.Filter

def truthyNumber (x : Float) : Bool := x != 0.0

def intToFloat (n : Int) : Float :=
  let x := n.natAbs.toUInt64.toFloat
  if n < 0 then -x else x

def truthy : Json → Bool
  | .bool b => b
  | .null => false
  | .int n => n != 0
  | .float x => truthyNumber x
  | .string s => !s.isEmpty
  | .array _ | .object _ => true

def textArgument (arguments : List Json) (i : Nat) : String :=
  ((arguments[i]?).bind Json.string?).getD ""

def lengthOf : Json → Nat
  | .string s => s.length
  | .array items => items.length
  | .object members => members.length
  | _ => 0

def transform? (name : String) : Option (List Json → Json) :=
  match name with
  | "lower" => some fun a => .string (Text.lower (textArgument a 0))
  | "upper" => some fun a => .string (Text.upper (textArgument a 0))
  | "trim" => some fun a => .string (Text.trim (textArgument a 0))
  | "split" => some fun a =>
    let delimiter := ((a[1]?).bind Json.string?).getD ","
    .array ((Text.split delimiter (textArgument a 0)).map .string)
  | "not" => some fun a => .bool (!truthy (a.headD .null))
  | "contains" => some fun a =>
    match a with
    | .array items :: rest => .bool (items.any (· == rest.headD .null))
    | _ => .bool (Text.contains (textArgument a 0) (textArgument a 1))
  | "startsWith" => some fun a => .bool (Text.startsWith (textArgument a 0) (textArgument a 1))
  | "endsWith" => some fun a => .bool (Text.endsWith (textArgument a 0) (textArgument a 1))
  | "length" => some fun a => .float (lengthOf (a.headD .null)).toUInt64.toFloat
  | _ => none

end Turnstile.Filter
