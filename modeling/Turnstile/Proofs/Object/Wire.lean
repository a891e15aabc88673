import Turnstile.Object.Metadata
import Turnstile.Proofs.Json.Wire
import Turnstile.Proofs.Object.Uid
import Turnstile.Proofs.Time.Rfc3339
/-! The written forms of what all objects share. -/
namespace Turnstile

def Metadata.times (m : Metadata) : List Instant := m.creationTimestamp.toList

namespace Wire
open Json Record

theorem returnsInstant {t : Instant} (four : t.FourDigitYear) : Returns t := by
  refine ⟨?_, Json.noConfusion⟩
  simp only [toJson, ofJson?, string?, Option.bind_some, Instant.readText four]

theorem returnsInstant? {o : Option Instant} (four : ∀ t ∈ o.toList, t.FourDigitYear) :
    ∀ t ∈ o, Returns t :=
  fun t there => returnsInstant (four t (Option.mem_toList.mpr there))

instance : Plainly Instant 0 := ⟨fun _ => .string _⟩

instance : Lossless Uid where
  returns u := by
    refine ⟨?_, Json.noConfusion⟩
    simp only [toJson, ofJson?, string?, Option.bind_some, Uid.readText u]

instance : Plainly Uid 0 := ⟨fun _ => .string _⟩

instance : Lossless Key where
  returns k := by
    refine returnsRecord rfl (fun _ => rfl) ?_
    rw [readRequired (by simp) (returns k.ns),
      readRequired (by simp) (returns k.name)]

instance : Plainly Key 1 := ⟨fun _ => recordPlain (by decide) (by decide)⟩

instance : Lossless Reference where
  returns r := by
    refine returnsRecord rfl (fun _ => rfl) ?_
    rw [readRequired (by simp) (returns r.name),
      readOptional (by simp) (each r.ns)]

instance : Plainly Reference 1 := ⟨fun _ => recordPlain (by decide) (by decide)⟩

theorem returnsMetadata {m : Metadata} (four : ∀ t ∈ m.times, t.FourDigitYear) : Returns m := by
  refine returnsRecord rfl (fun _ => rfl) ?_
  rw [readRequired (by simp) (returns m.name),
    readDefaulted (by simp) (returns m.ns),
    readDefaulted (by simp) (returns m.uid),
    readMap (by simp) (each m.labels.values),
    readMap (by simp) (each m.annotations.values),
    readDefaulted (by simp) (returns m.resourceVersion),
    readDefaulted (by simp) (returns m.generation),
    readOptional (by simp) (returnsInstant? four)]

instance : Plainly Metadata 2 := ⟨fun _ => recordPlain (by decide) (by decide)⟩

end Wire
end Turnstile
