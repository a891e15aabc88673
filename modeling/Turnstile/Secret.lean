import Turnstile.Object.Metadata
/-! Stored secrets and references to their entries. -/
namespace Turnstile

structure Secret where
  metadata : Metadata
  data : TextMap
  deriving DecidableEq, Repr

structure SecretRef where
  name : String
  key : String
  deriving DecidableEq, Repr

namespace Wire

instance : Wire Secret where
  toJson s := .object (Json.member "data" s.data ++ Json.member "metadata" s.metadata)
  ofJson? j := do
    let r ← j.record? 2
    some ⟨← r.required 0 "metadata", ← r.defaulted 1 "data" SortedMap.empty⟩

instance : Wire SecretRef where
  toJson s := .object (Json.member "key" s.key ++ Json.member "name" s.name)
  ofJson? j := do
    let r ← j.record? 2
    some ⟨← r.required 0 "name", ← r.required 1 "key"⟩

end Wire
end Turnstile
