import Turnstile.Json.Basic
/-! The tables of a TOML document. A table is defined once; one that was only
passed through on the way to another may still be defined, and one made by a
dotted key may only be extended by dotted keys. -/
namespace Turnstile.Toml

inductive Origin where
  /-- by its own header, or as the table around everything -/
  | defined
  /-- on the way to the header of another -/
  | passed
  /-- on the way to a value with a dotted key -/
  | dotted
  deriving DecidableEq, Repr

inductive Item where
  | value (v : Json)
  | table (origin : Origin) (entries : List (String × Item))
  /-- the entries of the last table of a list, and the tables before it, the last one first -/
  | tables (newest : List (String × Item)) (older : List Item)
  deriving Repr

abbrev Entries := List (String × Item)

namespace Entries

def put (es : Entries) (name : String) (item : Item) : Entries :=
  match es with
  | [] => [(name, item)]
  | (n, old) :: rest => if n = name then (n, item) :: rest else (n, old) :: put rest name item

/-- Changes the table at the end of a path of keys, which is made where it is
missing. `dotted` says that the path is part of a dotted key. -/
def alter (dotted : Bool) (change : Origin → Entries → Option (Origin × Entries)) :
    Origin → Entries → List String → Option (Origin × Entries)
  | origin, es, [] => change origin es
  | origin, es, name :: path =>
    match es.lookup name with
    | none =>
      let fresh : Origin := if dotted then .dotted else .passed
      (alter dotted change fresh [] path).map fun (o, inner) => (origin, put es name (.table o inner))
    | some (.value _) => none
    | some (.tables newest older) =>
      (alter dotted change .defined newest path).map fun (_, inner) =>
        (origin, put es name (.tables inner older))
    | some (.table o inner) =>
      if dotted && o = .defined then none
      else (alter dotted change o inner path).map fun (o, inner) => (origin, put es name (.table o inner))

def insert (dotted : Bool) (name : String) (v : Json) (origin : Origin) (es : Entries) :
    Option (Origin × Entries) :=
  if (origin == .dotted) != dotted || (es.lookup name).isSome then none
  else some (origin, put es name (.value v))

def assign (path : List String) (name : String) (v : Json) (origin : Origin) (es : Entries) :
    Option (Origin × Entries) :=
  alter true (insert (!path.isEmpty) name v) origin es path

def define (name : String) (origin : Origin) (es : Entries) : Option (Origin × Entries) :=
  match es.lookup name with
  | none => some (origin, put es name (.table .defined []))
  | some (.table .passed inner) => some (origin, put es name (.table .defined inner))
  | some _ => none

def extend (name : String) (origin : Origin) (es : Entries) : Option (Origin × Entries) :=
  match es.lookup name with
  | none => some (origin, put es name (.tables [] []))
  | some (.tables newest older) =>
    some (origin, put es name (.tables [] (.table .defined newest :: older)))
  | some _ => none

def within (path : List String) (change : Origin → Entries → Option (Origin × Entries))
    (es : Entries) : Option Entries :=
  (alter false change .defined es path).map (·.2)

end Entries

mutual

def Item.toJson : Item → Json
  | .value v => v
  | .table _ entries => Json.ofMembers (Item.members entries)
  | .tables newest older =>
    .array ((Json.ofMembers (Item.members newest) :: Item.listToJson older).reverse)

def Item.members : List (String × Item) → List (String × Json)
  | [] => []
  | (name, item) :: rest => (name, item.toJson) :: Item.members rest

def Item.listToJson : List Item → List Json
  | [] => []
  | item :: rest => item.toJson :: Item.listToJson rest

end

def Entries.toJson (es : Entries) : Json := Json.ofMembers (Item.members es)

end Turnstile.Toml
