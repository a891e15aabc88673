import Turnstile.Task.Basic
import Turnstile.Proofs.Object.Wire
/-! The written forms of tasks and templates. -/
namespace Turnstile

def Condition.times (c : Condition) : List Instant := [c.lastTransitionTime]

def TaskStatus.times (s : TaskStatus) : List Instant :=
  s.startTime.toList ++ s.completionTime.toList ++ s.conditions.flatMap Condition.times ++
    s.retryAfter.toList

def Task.times (t : Task) : List Instant := t.metadata.times ++ t.status.times

def TaskTemplate.times (t : TaskTemplate) : List Instant := t.metadata.times

namespace Wire
open Json Record

instance : Lossless Phase := ⟨fun p => by cases p <;> exact ⟨rfl, Json.noConfusion⟩⟩

instance : Lossless ConditionStatus := ⟨fun s => by cases s <;> exact ⟨rfl, Json.noConfusion⟩⟩

instance : Lossless TerminalReason := ⟨fun r => by cases r <;> exact ⟨rfl, Json.noConfusion⟩⟩

instance : Lossless ContextKind := ⟨fun k => by cases k <;> exact ⟨rfl, Json.noConfusion⟩⟩

instance : Lossless Backoff := ⟨fun b => by cases b <;> exact ⟨rfl, Json.noConfusion⟩⟩

instance : Plainly Phase 0 := ⟨fun _ => .string _⟩

instance : Plainly ConditionStatus 0 := ⟨fun _ => .string _⟩

instance : Plainly TerminalReason 0 := ⟨fun _ => .string _⟩

instance : Plainly ContextKind 0 := ⟨fun k => by cases k <;> exact .string _⟩

instance : Plainly Backoff 0 := ⟨fun b => by cases b <;> exact .string _⟩

theorem returnsCondition {c : Condition} (four : ∀ t ∈ c.times, t.FourDigitYear) : Returns c := by
  have time := returnsInstant (four c.lastTransitionTime List.mem_cons_self)
  refine returnsRecord rfl (fun _ => rfl) ?_
  rw [readRequired (by simp) (returns c.type),
    readRequired (by simp) (returns c.status),
    readRequired (by simp) (returns c.reason),
    readDefaulted (by simp) (returns c.message),
    readRequired (by simp) time]

instance : Plainly Condition 1 := ⟨fun _ => recordPlain (by decide) (by decide)⟩

theorem returnsTaskStatus {s : TaskStatus} (four : ∀ t ∈ s.times, t.FourDigitYear) : Returns s := by
  simp only [TaskStatus.times, List.mem_append, List.mem_flatMap] at four
  have start := returnsInstant? fun t there => four t (.inl (.inl (.inl there)))
  have completion := returnsInstant? fun t there => four t (.inl (.inl (.inr there)))
  have conditions : ∀ c ∈ s.conditions, Returns c := fun c inside =>
    returnsCondition fun t there => four t (.inl (.inr ⟨c, inside, there⟩))
  have retry := returnsInstant? fun t there => four t (.inr there)
  refine returnsRecord rfl (fun _ => rfl) ?_
  rw [readOptional (by simp) (each s.phase),
    readOptional (by simp) (each s.agent),
    readOptional (by simp) (each s.workloadName),
    readOptional (by simp) (each s.workloadNamespace),
    readOptional (by simp) start,
    readOptional (by simp) completion,
    readMap (by simp) (each s.outputs.values),
    readList (by simp) conditions,
    readDefaulted (by simp) (returns s.observedGeneration),
    readDefaulted (by simp) (returns s.attempts),
    readOptional (by simp) retry,
    readOptional (by simp) (each s.terminalReason),
    readOptional (by simp) (each s.exitCode)]

instance : Plainly TaskStatus 3 := ⟨fun _ => recordPlain (by decide) (by decide)⟩

instance : Lossless ContextItem where
  returns c := by
    refine returnsRecord rfl (fun _ => rfl) ?_
    rw [readOptional (by simp) (each c.name),
      readDefaulted (by simp) (returns c.kind),
      readRequired (by simp) (returns c.value)]

instance : Plainly ContextItem 1 := ⟨fun _ => recordPlain (by decide) (by decide)⟩

instance : Lossless OutputSpec where
  returns o := by
    refine returnsRecord rfl (fun _ => rfl) ?_
    rw [readRequired (by simp) (returns o.name),
      readOptional (by simp) (each o.description),
      readOptional (by simp) (each o.default)]

instance : Plainly OutputSpec 1 := ⟨fun _ => recordPlain (by decide) (by decide)⟩

instance : Lossless RetryPolicy where
  returns p := by
    refine returnsRecord rfl (fun _ => rfl) ?_
    rw [readDefaulted (by simp) (returns p.maxAttempts),
      readDefaulted (by simp) (returns p.backoff),
      readOptional (by simp) (each p.maxDelaySecs)]

instance : Plainly RetryPolicy 1 := ⟨fun _ => recordPlain (by decide) (by decide)⟩

instance : Lossless TaskSpec where
  returns s := by
    refine returnsRecord rfl (fun _ => rfl) ?_
    rw [readDefaulted (by simp) (returns s.description),
      readOptional (by simp) (each s.agentRef),
      readList (by simp) (each s.contexts),
      readList (by simp) (each s.outputs),
      readOptional (by simp) (each s.templateRef),
      readOptional (by simp) (each s.retryPolicy)]

instance : Plainly TaskSpec 3 := ⟨fun _ => recordPlain (by decide) (by decide)⟩

theorem returnsTask {t : Task} (four : ∀ i ∈ t.times, i.FourDigitYear) : Returns t := by
  have metadata := returnsMetadata fun i there => four i (List.mem_append_left _ there)
  have status := returnsTaskStatus fun i there => four i (List.mem_append_right _ there)
  refine returnsRecord rfl (fun _ => rfl) ?_
  rw [readRequired (by simp) metadata,
    readRequired (by simp) (returns t.spec),
    readDefaulted (by simp) status]

instance : Plainly Task 4 := ⟨fun _ => recordPlain (by decide) (by decide)⟩

instance : Lossless TemplateSpec where
  returns s := by
    refine returnsRecord rfl (fun _ => rfl) ?_
    rw [readOptional (by simp) (each s.description),
      readOptional (by simp) (each s.agentRef),
      readList (by simp) (each s.contexts),
      readList (by simp) (each s.outputs)]

instance : Plainly TemplateSpec 3 := ⟨fun _ => recordPlain (by decide) (by decide)⟩

theorem returnsTemplate {t : TaskTemplate} (four : ∀ i ∈ t.times, i.FourDigitYear) : Returns t := by
  refine returnsRecord rfl (fun _ => rfl) ?_
  rw [readRequired (by simp) (returnsMetadata four),
    readRequired (by simp) (returns t.spec)]

instance : Plainly TaskTemplate 4 := ⟨fun _ => recordPlain (by decide) (by decide)⟩

end Wire
end Turnstile
