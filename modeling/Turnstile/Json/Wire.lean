import Turnstile.Json.Basic
/-! Written forms. A type has a form if its values can be written as JSON and
read back; reading refuses what is not of the form. -/
namespace Turnstile

class Wire (α : Type) where
  toJson : α → Json
  ofJson? : Json → Option α

export Wire (toJson ofJson?)

namespace Json

/-- A record under reading: its members by name, or its fields in order. -/
inductive Record where
  | named (members : List (String × Json))
  | listed (items : List Json)

def record? (count : Nat) : Json → Option Record
  | .object members => some (.named members)
  | .array items => if items.length ≤ count then some (.listed items) else none
  | _ => none

namespace Record

def field? (r : Record) (position : Nat) (name : String) : Option Json :=
  match r with
  | named members => SortedMap.lookup name members
  | listed items => items[position]?

variable {α : Type} [Wire α]

def required (r : Record) (position : Nat) (name : String) : Option α :=
  (r.field? position name).bind ofJson?

/-- Null is not a missing field. -/
def defaulted (r : Record) (position : Nat) (name : String) (value : α) : Option α :=
  match r.field? position name with
  | none => some value
  | some j => ofJson? j

/-- Null is a missing field. -/
def optional (r : Record) (position : Nat) (name : String) : Option (Option α) :=
  match r.field? position name with
  | none | some .null => some none
  | some j => (ofJson? j).map some

end Record

variable {α : Type} [Wire α]

def member (name : String) (a : α) : List (String × Json) := [(name, toJson a)]

def memberIfSome (name : String) : Option α → List (String × Json)
  | some a => [(name, toJson a)]
  | none => []

end Json

namespace Wire

instance : Wire Json := ⟨id, some⟩

instance : Wire String where
  toJson s := .string s
  ofJson? := Json.string?

def whole? (low high : Int) : Json → Option Int
  | .int n => if low ≤ n && n ≤ high then some n else none
  | _ => none

instance : Wire UInt16 where
  toJson n := .int n.toNat
  ofJson? j := (whole? 0 0xffff j).map fun n => n.toNat.toUInt16

instance : Wire UInt32 where
  toJson n := .int n.toNat
  ofJson? j := (whole? 0 0xffffffff j).map fun n => n.toNat.toUInt32

instance : Wire UInt64 where
  toJson n := .int n.toNat
  ofJson? j := (whole? 0 0xffffffffffffffff j).map fun n => n.toNat.toUInt64

instance : Wire Int32 where
  toJson n := .int n.toInt
  ofJson? j := (whole? (-0x80000000) 0x7fffffff j).map Int32.ofInt

def all? {α β : Type} (f : α → Option β) : List α → Option (List β)
  | [] => some []
  | a :: rest =>
    match f a with
    | none => none
    | some b => (all? f rest).map (b :: ·)

instance {α : Type} [Wire α] : Wire (List α) where
  toJson xs := .array (xs.map toJson)
  ofJson?
    | .array items => all? ofJson? items
    | _ => none

instance {α : Type} [Wire α] : Wire (SortedMap String α) where
  toJson m := .object (m.entries.map fun e => (e.1, toJson e.2))
  ofJson?
    | .object members =>
      (all? (fun e => (ofJson? e.2).map fun v => (e.1, v)) members).map SortedMap.ofList
    | _ => none

def ofName? {α : Type} (names : List (String × α)) (j : Json) : Option α :=
  match j with
  | .string s => names.lookup s
  | .object [(s, .null)] => names.lookup s
  | _ => none

end Wire

namespace Json

def memberUnlessEmpty {α : Type} [Wire α] (name : String) (xs : List α) : List (String × Json) :=
  if xs.isEmpty then [] else [(name, toJson xs)]

def memberIfAny {α : Type} [Wire α] (name : String) (m : SortedMap String α) :
    List (String × Json) :=
  if m.isEmpty then [] else [(name, toJson m)]

end Json
end Turnstile
