import Turnstile.Filter.Expr
/-! Checks that need no payload: the variables of an expression, and whether
its value could be a boolean at all. -/
namespace Turnstile.Filter

def contextNames : List String := ["body", "headers"]

mutual

/-- The first name used as a variable that is none. Names of members, keys and
transforms are not variables. -/
def Expr.unknown? : Expr → Option String
  | .null | .boolean _ | .number _ | .string _ => none
  | .array items => unknownIn? items
  | .object members => unknownAmong? members
  | .identifier name => if contextNames.contains name then none else some name
  | .binary _ left right => left.unknown?.or right.unknown?
  | .transform _ subject arguments => subject.unknown?.or (unknownIn? arguments)
  | .member subject _ => subject.unknown?
  | .index subject at_ => subject.unknown?.or at_.unknown?
  | .select subject _ _ right => subject.unknown?.or right.unknown?
  | .conditional condition truthy falsy =>
    condition.unknown?.or (truthy.unknown?.or falsy.unknown?)

def unknownIn? : List Expr → Option String
  | [] => none
  | e :: rest => e.unknown?.or (unknownIn? rest)

def unknownAmong? : List (String × Expr) → Option String
  | [] => none
  | (_, e) :: rest => e.unknown?.or (unknownAmong? rest)

end

def Expr.neverBoolean : Expr → Bool
  | .null | .number _ | .string _ | .array _ | .object _ => true
  | .binary op _ _ => op.isArithmetic
  | .conditional _ truthy falsy => truthy.neverBoolean && falsy.neverBoolean
  | _ => false

end Turnstile.Filter
