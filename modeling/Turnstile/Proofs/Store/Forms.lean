import Turnstile.Store.Kind
import Turnstile.Proofs.Trigger.Wire
/-! The written forms of the objects of every kind. -/
namespace Turnstile

def Agent.times (a : Agent) : List Instant := a.metadata.times

namespace Wire
open Json Record

instance : Lossless AgentQuota where
  returns q := by
    refine returnsRecord rfl (fun _ => rfl) ?_
    rw [readRequired (by simp) (returns q.maxTaskStarts),
      readRequired (by simp) (returns q.windowSeconds)]

instance : Plainly AgentQuota 1 := ⟨fun _ => recordPlain (by decide) (by decide)⟩

instance : Lossless AgentSpec where
  returns s := by
    refine returnsRecord rfl (fun _ => rfl) ?_
    rw [readRequired (by simp) (returns s.image),
      readOptional (by simp) (each s.executorImage),
      readOptional (by simp) (each s.maxConcurrentTasks),
      readOptional (by simp) (each s.quota),
      readList (by simp) (each s.allowedNamespaces)]

instance : Plainly AgentSpec 2 := ⟨fun _ => recordPlain (by decide) (by decide)⟩

theorem returnsAgent {a : Agent} (four : ∀ i ∈ a.times, i.FourDigitYear) : Returns a := by
  refine returnsRecord rfl (fun _ => rfl) ?_
  rw [readRequired (by simp) (returnsMetadata four),
    readRequired (by simp) (returns a.spec)]

instance : Plainly Agent 3 := ⟨fun _ => recordPlain (by decide) (by decide)⟩

end Wire

namespace Kind

def times : (k : Kind) → k.Object → List Instant
  | task, o => o.times
  | agent, o => o.times
  | template, o => o.times
  | trigger, o => o.times
  | secret, o => o.times

theorem readWritten {k : Kind} {o : k.Object} (four : ∀ i ∈ k.times o, i.FourDigitYear) :
    k.ofJson? (k.toJson o) = some o := by
  cases k with
  | task => exact (Wire.returnsTask four).read
  | agent => exact (Wire.returnsAgent four).read
  | template => exact (Wire.returnsTemplate four).read
  | trigger => exact (Wire.returnsTrigger four).read
  | secret => exact (Wire.returnsSecret four).read

theorem writtenPlain (k : Kind) (o : k.Object) : Json.Plain 7 (k.toJson o) := by
  cases k with
  | task => exact (Wire.Plainly.plain (α := Task) o).deeper (by decide)
  | agent => exact (Wire.Plainly.plain (α := Agent) o).deeper (by decide)
  | template => exact (Wire.Plainly.plain (α := TaskTemplate) o).deeper (by decide)
  | trigger => exact Wire.Plainly.plain (α := WebhookTrigger) o
  | secret => exact (Wire.Plainly.plain (α := Secret) o).deeper (by decide)

def memberNames : Kind → List String
  | task | trigger => ["metadata", "spec", "status"]
  | agent | template => ["metadata", "spec"]
  | secret => ["data", "metadata"]

theorem writtenObject (k : Kind) (o : k.Object) :
    ∃ members, k.toJson o = .object members ∧ ∀ e ∈ members, e.1 ∈ k.memberNames := by
  cases k <;> exact ⟨_, rfl, fun e inside =>
    Wire.Listed.named.subset (List.mem_map_of_mem inside)⟩

end Kind
end Turnstile
