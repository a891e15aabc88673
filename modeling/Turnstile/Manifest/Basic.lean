import Turnstile.Json.Reader
import Turnstile.Store.Kind
/-! Manifests: objects to seed a store with, each with the name of its kind. -/
namespace Turnstile

structure Manifest where
  kind : Kind
  object : kind.Object

namespace Manifest

def key (m : Manifest) : Key := m.kind.key m.object

def describe (m : Manifest) : String := m.kind.text ++ " " ++ m.key.text

def kindMember : String := "kind"

def kindOf? : Json → Option Kind
  | .string s => Kind.all.find? fun k => k.text == s
  | _ => none

def withKind? (k : Kind) (j : Json) : Option Manifest := (k.ofJson? j).map fun o => ⟨k, o⟩

def ofJson? : Json → Option Manifest
  | .object members => do
    let k ← (SortedMap.lookup kindMember members).bind kindOf?
    withKind? k (.object (members.filter fun m => m.1 != kindMember))
  | .array (name :: fields) => do
    let k ← kindOf? name
    withKind? k (.array fields)
  | _ => none

def toJson (m : Manifest) : Json :=
  match m.kind.toJson m.object with
  | .object members => .object (SortedMap.insertEntry kindMember (.string m.kind.text) members)
  | j => j

instance : Wire Manifest := ⟨toJson, ofJson?⟩

end Manifest

inductive ManifestError where
  | invalidJson
  | notManifest
  | badElement (index : Nat)
  | invalidYaml (document : Nat)
  | badDocument (document : Nat)
  | missing (path : String)
  | unreadable (path : String)
  | malformed (path : String)
  deriving DecidableEq, Repr

def ManifestError.message : ManifestError → String
  | invalidJson => "invalid JSON"
  | notManifest => "not a valid manifest"
  | badElement index => s!"element {index} is not a valid manifest"
  | invalidYaml document => s!"document {document} is not valid YAML"
  | badDocument document => s!"document {document} is not a valid manifest"
  | missing path => "manifest path " ++ path ++ " not found"
  | unreadable path => "failed to read " ++ path
  | malformed path => "failed to parse " ++ path

namespace Manifest

def ofElements (index : Nat) : List Json → Except ManifestError (List Manifest)
  | [] => .ok []
  | j :: rest =>
    match ofJson? j with
    | none => .error (.badElement index)
    | some m =>
      match ofElements (index + 1) rest with
      | .error e => .error e
      | .ok ms => .ok (m :: ms)

def ofJsonText (content : String) : Except ManifestError (List Manifest) :=
  match Json.read? content with
  | none => .error .invalidJson
  | some (.array items) => ofElements 0 items
  | some j =>
    match ofJson? j with
    | none => .error .notManifest
    | some m => .ok [m]

end Manifest
end Turnstile
