import Turnstile.Object.Key
import Turnstile.Object.Uid
import Turnstile.Time.Rfc3339
import Turnstile.Json.Wire
/-! What every stored object carries: its key, the labels it is selected by, and
what the store keeps about its writes. -/
namespace Turnstile

abbrev TextMap := SortedMap String String

structure Metadata where
  name : String
  ns : String
  uid : Uid
  labels : TextMap
  annotations : TextMap
  resourceVersion : UInt64
  generation : UInt64
  creationTimestamp : Option Instant
  deriving DecidableEq, Repr

namespace Metadata

def defaultNamespace : String := "default"

def ofKey (k : Key) : Metadata := ⟨k.name, k.ns, .nil, .empty, .empty, 0, 0, none⟩

def key (m : Metadata) : Key := ⟨m.ns, m.name⟩

def matchesLabels (m : Metadata) (selector : TextMap) : Bool :=
  selector.entries.all fun e => m.labels.get? e.1 == some e.2

end Metadata

namespace Wire

instance : Wire Instant where
  toJson t := .string t.toText
  ofJson? j := j.string?.bind Instant.ofText?

instance : Wire Uid where
  toJson u := .string u.toText
  ofJson? j := j.string?.bind Uid.ofText?

instance : Wire Key where
  toJson k := .object (Json.member "name" k.name ++ Json.member "namespace" k.ns)
  ofJson? j := do
    let r ← j.record? 2
    some ⟨← r.required 0 "namespace", ← r.required 1 "name"⟩

instance : Wire Reference where
  toJson r := .object (Json.member "name" r.name ++ Json.memberIfSome "namespace" r.ns)
  ofJson? j := do
    let r ← j.record? 2
    some ⟨← r.required 0 "name", ← r.optional 1 "namespace"⟩

instance : Wire Metadata where
  toJson m := .object
    (Json.memberIfAny "annotations" m.annotations
      ++ Json.memberIfSome "creation_timestamp" m.creationTimestamp
      ++ Json.member "generation" m.generation
      ++ Json.memberIfAny "labels" m.labels
      ++ Json.member "name" m.name
      ++ Json.member "namespace" m.ns
      ++ Json.member "resource_version" m.resourceVersion
      ++ Json.member "uid" m.uid)
  ofJson? j := do
    let r ← j.record? 8
    some {
      name := ← r.required 0 "name"
      ns := ← r.defaulted 1 "namespace" Metadata.defaultNamespace
      uid := ← r.defaulted 2 "uid" Uid.nil
      labels := ← r.defaulted 3 "labels" SortedMap.empty
      annotations := ← r.defaulted 4 "annotations" SortedMap.empty
      resourceVersion := ← r.defaulted 5 "resource_version" 0
      generation := ← r.defaulted 6 "generation" 0
      creationTimestamp := ← r.optional 7 "creation_timestamp" }

end Wire
end Turnstile
