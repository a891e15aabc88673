import Turnstile.Filter.Transform
import Turnstile.Filter.Expr
import Turnstile.Decimal.Remainder
import Turnstile.Json.Writer
/-! The value of an expression in a context of variables. -/
namespace Turnstile.Filter

inductive EvalError where
  | invalidOperation (left right : Json) (op : Operator)
  | undefinedIdentifier (name : String)
  | unknownTransform (name : String)
  | duplicateKey (key : String)
  | invalidFilter
  | invalidIndex
  deriving BEq, Repr

def EvalError.message : EvalError → String
  | invalidOperation left right op =>
    "Invalid binary operation, left: " ++ left.compact ++ ", right: " ++ right.compact
      ++ ", operation: " ++ op.title
  | undefinedIdentifier name => "Undefined identifier: " ++ name
  | unknownTransform name => "Unknown transform: " ++ name
  | duplicateKey key => "Duplicate object key: " ++ key
  | invalidFilter => "Invalid filter"
  | invalidIndex => "Invalid index type"

abbrev Context := String → Option Json

def Context.ofRequest (body headers : Json) : Context := fun name =>
  if name = "body" then some body else if name = "headers" then some headers else none

def number? : Json → Option Float
  | .int n => some (intToFloat n)
  | .float x => some x
  | _ => none

def numberJson (x : Float) : Json := if x.isNaN || x.isInf then .null else .float x

def closeNumbers (a b : Float) : Bool := (a - b).abs < 1e-6

def arithmetic (op : Operator) (a b : Float) : Option Json :=
  match op with
  | .add => some (numberJson (a + b))
  | .subtract => some (numberJson (a - b))
  | .multiply => some (numberJson (a * b))
  | .divide => some (numberJson (a / b))
  | .floorDivide => some (numberJson (a / b).floor)
  | .modulus => some (numberJson (Decimal.remainder a b))
  | .exponent => some (numberJson (a ^ b))
  | .less => some (.bool (a < b))
  | .atMost => some (.bool (a ≤ b))
  | .greater => some (.bool (b < a))
  | .atLeast => some (.bool (b ≤ a))
  | .equal => some (.bool (closeNumbers a b))
  | .notEqual => some (.bool !closeNumbers a b)
  | .contained => some (.bool false)
  | .and | .or => none

def textual (op : Operator) (a b : String) : Option Json :=
  match op with
  | .add => some (.string (a ++ b))
  | .less => some (.bool (a < b))
  | .atMost => some (.bool (a ≤ b))
  | .greater => some (.bool (b < a))
  | .atLeast => some (.bool (b ≤ a))
  | .equal => some (.bool (a == b))
  | .notEqual => some (.bool (a != b))
  | .contained => some (.bool (Text.contains b a))
  | _ => none

def sameValue : Json → Json → Bool
  | .null, .null => true
  | .bool a, .bool b => a == b
  | .array a, .array b => Json.array a == Json.array b
  | .object a, .object b => Json.object a == Json.object b
  | _, _ => false

def general (op : Operator) (left right : Json) : Option Json :=
  match op, left, right with
  | .contained, x, .array items => some (.bool (items.any (· == x)))
  | .contained, .string key, .object members => some (.bool (members.any (·.1 == key)))
  | .equal, x, y => some (.bool (sameValue x y))
  | .notEqual, x, y => some (.bool !sameValue x y)
  | _, _, _ => none

def apply (op : Operator) (left right : Json) : Except EvalError Json :=
  let result :=
    match number? left, number? right with
    | some a, some b => arithmetic op a b
    | _, _ =>
      match left, right with
      | .string a, .string b => textual op a b
      | _, _ => general op left right
  match result with
  | some j => .ok j
  | none => .error (.invalidOperation left right op)

def element? (items : List Json) (x : Float) : Option Json := items[x.floor.toUInt64.toNat]?

def indexed (subject at_ : Json) : Except EvalError Json :=
  match at_ with
  | .string name => .ok ((subject.member? name).getD .null)
  | at_ =>
    match number? at_ with
    | none => .error .invalidIndex
    | some x =>
      match subject with
      | .array items => .ok ((element? items x).getD .null)
      | _ => .ok .null

def selected (op : Operator) (name : String) (right : Json) (items : List Json) : List Json :=
  items.filter fun item =>
    match apply op ((item.member? name).getD .null) right with
    | .ok j => truthy j
    | .error _ => false

mutual

/-- A condition or left operand that fails is falsy to the conditional and to
`||`; all else passes a failure on. -/
def Expr.eval (context : Context) : Expr → Except EvalError Json
  | .null => .ok .null
  | .boolean b => .ok (.bool b)
  | .number x => .ok (numberJson x)
  | .string s => .ok (.string s)
  | .array items =>
    match evalItems context items with
    | .ok xs => .ok (.array xs)
    | .error e => .error e
  | .object members =>
    match evalMembers context [] members with
    | .ok ms => .ok (Json.ofMembers ms)
    | .error e => .error e
  | .identifier name =>
    match context name with
    | some j => .ok j
    | none => .error (.undefinedIdentifier name)
  | .binary .and left right =>
    match left.eval context with
    | .error e => .error e
    | .ok l => if truthy l then right.eval context else .ok l
  | .binary .or left right =>
    match left.eval context with
    | .error _ => right.eval context
    | .ok l => if truthy l then .ok l else right.eval context
  | .binary op left right =>
    match left.eval context with
    | .error e => .error e
    | .ok l =>
      match right.eval context with
      | .error e => .error e
      | .ok r => apply op l r
  | .transform name subject arguments =>
    match subject.eval context with
    | .error e => .error e
    | .ok s =>
      match evalItems context arguments with
      | .error e => .error e
      | .ok xs =>
        match transform? name with
        | some f => .ok (f (s :: xs))
        | none => .error (.unknownTransform name)
  | .member subject name =>
    match subject.eval context with
    | .error e => .error e
    | .ok s => .ok ((s.member? name).getD .null)
  | .index subject at_ =>
    match subject.eval context with
    | .error e => .error e
    | .ok s =>
      match at_.eval context with
      | .error e => .error e
      | .ok i => indexed s i
  | .select subject name op right =>
    match subject.eval context with
    | .error e => .error e
    | .ok (.array items) =>
      match right.eval context with
      | .error e => .error e
      | .ok r => .ok (.array (selected op name r items))
    | .ok _ => .error .invalidFilter
  | .conditional condition truthy_ falsy =>
    match condition.eval context with
    | .ok c => if truthy c then truthy_.eval context else falsy.eval context
    | .error _ => falsy.eval context

def evalItems (context : Context) : List Expr → Except EvalError (List Json)
  | [] => .ok []
  | e :: rest =>
    match e.eval context with
    | .error e => .error e
    | .ok x =>
      match evalItems context rest with
      | .error e => .error e
      | .ok xs => .ok (x :: xs)

def evalMembers (context : Context) (seen : List String) :
    List (String × Expr) → Except EvalError (List (String × Json))
  | [] => .ok []
  | (key, e) :: rest =>
    if seen.contains key then .error (.duplicateKey key)
    else
      match e.eval context with
      | .error e => .error e
      | .ok x =>
        match evalMembers context (key :: seen) rest with
        | .error e => .error e
        | .ok ms => .ok ((key, x) :: ms)

end

end Turnstile.Filter
