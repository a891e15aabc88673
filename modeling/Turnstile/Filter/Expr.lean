import Turnstile.Json.Basic
/-! Filter expressions. -/
namespace Turnstile.Filter

inductive Operator where
  | and | or
  | equal | notEqual | atLeast | atMost | greater | less | contained
  | add | subtract
  | multiply | floorDivide | divide
  | modulus | exponent
  deriving DecidableEq, Repr

namespace Operator

def title : Operator → String
  | and => "And"
  | or => "Or"
  | equal => "Equal"
  | notEqual => "Not equal"
  | atLeast => "Greater than or equal to"
  | atMost => "Less than or equal to"
  | greater => "Greater than"
  | less => "Less than"
  | contained => "In"
  | add => "Add"
  | subtract => "Subtract"
  | multiply => "Multiply"
  | floorDivide => "Floor division"
  | divide => "Divide"
  | modulus => "Modulus"
  | exponent => "Exponent"

def level : Operator → Nat
  | and | or => 0
  | equal | notEqual | atLeast | atMost | greater | less | contained => 1
  | add | subtract => 2
  | multiply | floorDivide | divide => 3
  | modulus | exponent => 4

def isArithmetic (op : Operator) : Bool := 2 ≤ op.level

def isComparison (op : Operator) : Bool := op.level = 1

end Operator

inductive Expr where
  | null
  | boolean (b : Bool)
  | number (x : Float)
  | string (s : String)
  | array (items : List Expr)
  | object (members : List (String × Expr))
  | identifier (name : String)
  | binary (op : Operator) (left right : Expr)
  | transform (name : String) (subject : Expr) (arguments : List Expr)
  | member (subject : Expr) (name : String)
  | index (subject at_ : Expr)
  | select (subject : Expr) (name : String) (op : Operator) (right : Expr)
  | conditional (condition truthy falsy : Expr)
  deriving BEq, Repr

instance : Inhabited Expr := ⟨.null⟩

end Turnstile.Filter
