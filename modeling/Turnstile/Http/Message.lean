import Turnstile.Http.Target
import Turnstile.Object.Metadata
/-! Requests and responses. -/
namespace Turnstile.Http

structure Header where
  name : String
  value : List UInt8
  deriving DecidableEq, Repr

structure Request where
  method : String
  target : Target
  headers : List Header
  body : List UInt8
  deriving DecidableEq, Repr

structure Response where
  status : Nat
  allow : Option String
  body : String
  deriving DecidableEq, Repr

def isTokenChar (c : Char) : Bool := c.isAlphanum || "!#$%&'*+-.^_\x60|~".toList.contains c

def isToken (s : String) : Bool := !s.isEmpty && s.toList.all isTokenChar

def isValueByte (n : Nat) : Bool := n = 9 || (0x20 ≤ n && n ≤ 0xFF && n ≠ 0x7F)

def Header.of? (name value : String) : Option Header :=
  if isToken name && value.toList.all (fun c => isValueByte c.toNat) then
    some ⟨name.map Char.toLower, value.toList.map fun c => c.toNat.toUInt8⟩
  else none

def Request.of? (method target : String) (headers : List (String × String)) (body : List UInt8) :
    Option Request := do
  let target ← Target.ofText? target
  if isToken method then
    let headers ← headers.mapM fun h => Header.of? h.1 h.2
    some ⟨method, target, headers, body⟩
  else none

def Header.text? (h : Header) : Option String :=
  if h.value.all fun b => b = 9 || (0x20 ≤ b && b < 0x7F) then
    some (String.ofList (h.value.map fun b => Char.ofNat b.toNat))
  else none

def firstValues (headers : List Header) : TextMap :=
  headers.foldr (fun h values =>
    match h.text? with
    | some value => values.insert h.name value
    | none => values.erase h.name) .empty

end Turnstile.Http
