import Turnstile.Trigger.Basic
import Turnstile.Proofs.Task.Wire
/-! The written forms of triggers and secrets. -/
namespace Turnstile

def RuleStatus.times (r : RuleStatus) : List Instant := r.lastTriggeredTime.toList

def TriggerStatus.times (s : TriggerStatus) : List Instant :=
  s.lastTriggeredTime.toList ++ s.ruleStatuses.flatMap RuleStatus.times

def WebhookTrigger.times (t : WebhookTrigger) : List Instant := t.metadata.times ++ t.status.times

def Secret.times (s : Secret) : List Instant := s.metadata.times

namespace Wire
open Json Record

instance : Lossless SecretRef where
  returns s := by
    refine returnsRecord rfl (fun _ => rfl) ?_
    rw [readRequired (by simp) (returns s.name),
      readRequired (by simp) (returns s.key)]

instance : Plainly SecretRef 1 := ⟨fun _ => recordPlain (by decide) (by decide)⟩

theorem returnsSecret {s : Secret} (four : ∀ i ∈ s.times, i.FourDigitYear) : Returns s := by
  refine returnsRecord rfl (fun _ => rfl) ?_
  rw [readRequired (by simp) (returnsMetadata four),
    readDefaulted (by simp) (returns s.data)]

instance : Plainly Secret 3 := ⟨fun _ => recordPlain (by decide) (by decide)⟩

instance : Lossless HmacAlgorithm := ⟨fun a => by cases a <;> exact ⟨rfl, Json.noConfusion⟩⟩

instance : Lossless ConcurrencyPolicy := ⟨fun p => by cases p <;> exact ⟨rfl, Json.noConfusion⟩⟩

instance : Plainly HmacAlgorithm 0 := ⟨fun a => by cases a <;> exact .string _⟩

instance : Plainly ConcurrencyPolicy 0 := ⟨fun p => by cases p <;> exact .string _⟩

instance : Lossless WebhookAuth where
  returns auth := by
    cases auth with
    | hmac secret header algorithm =>
      refine returnsTagged rfl (fun _ => rfl) ?_
      rw [readRequired (by simp) (returns secret),
        readDefaulted (by simp) (returns header),
        readDefaulted (by simp) (returns algorithm)]
    | bearer secret =>
      refine returnsTagged rfl (fun _ => rfl) ?_
      rw [readRequired (by simp) (returns secret)]
    | header name secret =>
      refine returnsTagged rfl (fun _ => rfl) ?_
      rw [readRequired (by simp) (returns name),
        readRequired (by simp) (returns secret)]

instance : Plainly WebhookAuth 3 where
  plain auth := by
    cases auth <;> exact .object (List.pairwise_singleton _ _) fun e inside => by
      rw [List.mem_singleton.mp inside]
      exact recordPlain (by decide) (by decide)

instance : Lossless TaskBlueprint where
  returns b := by
    refine returnsRecord rfl (fun _ => rfl) ?_
    rw [readDefaulted (by simp) (returns b.description),
      readOptional (by simp) (each b.agentRef),
      readList (by simp) (each b.contexts),
      readList (by simp) (each b.outputs),
      readOptional (by simp) (each b.templateRef),
      readMap (by simp) (each b.labels.values)]

instance : Plainly TaskBlueprint 3 := ⟨fun _ => recordPlain (by decide) (by decide)⟩

instance : Lossless WebhookRule where
  returns w := by
    refine returnsRecord rfl (fun _ => rfl) ?_
    rw [readRequired (by simp) (returns w.name),
      readDefaulted (by simp) (returns w.filter),
      readOptional (by simp) (each w.concurrencyPolicy),
      readRequired (by simp) (returns w.taskTemplate)]

instance : Plainly WebhookRule 4 := ⟨fun _ => recordPlain (by decide) (by decide)⟩

instance : Lossless TriggerSpec where
  returns s := by
    refine returnsRecord rfl (fun _ => rfl) ?_
    rw [readOptional (by simp) (each s.auth),
      readDefaulted (by simp) (returns s.filter),
      readDefaulted (by simp) (returns s.concurrencyPolicy),
      readOptional (by simp) (each s.taskTemplate),
      readList (by simp) (each s.rules)]

instance : Plainly TriggerSpec 6 := ⟨fun _ => recordPlain (by decide) (by decide)⟩

theorem returnsRuleStatus {r : RuleStatus} (four : ∀ i ∈ r.times, i.FourDigitYear) : Returns r := by
  refine returnsRecord rfl (fun _ => rfl) ?_
  rw [readRequired (by simp) (returns r.name),
    readOptional (by simp) (returnsInstant? four),
    readDefaulted (by simp) (returns r.totalTriggered),
    readList (by simp) (each r.activeResources)]

instance : Plainly RuleStatus 2 := ⟨fun _ => recordPlain (by decide) (by decide)⟩

theorem returnsTriggerStatus {s : TriggerStatus} (four : ∀ i ∈ s.times, i.FourDigitYear) :
    Returns s := by
  have last := returnsInstant? fun i there => four i (List.mem_append_left _ there)
  have rules : ∀ r ∈ s.ruleStatuses, Returns r := fun r inside => returnsRuleStatus fun i there =>
    four i (List.mem_append_right _ (List.mem_flatMap.mpr ⟨r, inside, there⟩))
  refine returnsRecord rfl (fun _ => rfl) ?_
  rw [readOptional (by simp) (each s.webhookUrl),
    readOptional (by simp) last,
    readDefaulted (by simp) (returns s.totalTriggered),
    readList (by simp) (each s.activeTasks),
    readList (by simp) rules]

instance : Plainly TriggerStatus 4 := ⟨fun _ => recordPlain (by decide) (by decide)⟩

theorem returnsTrigger {t : WebhookTrigger} (four : ∀ i ∈ t.times, i.FourDigitYear) : Returns t := by
  have metadata := returnsMetadata fun i there => four i (List.mem_append_left _ there)
  have status := returnsTriggerStatus fun i there => four i (List.mem_append_right _ there)
  refine returnsRecord rfl (fun _ => rfl) ?_
  rw [readRequired (by simp) metadata,
    readRequired (by simp) (returns t.spec),
    readDefaulted (by simp) status]

instance : Plainly WebhookTrigger 7 := ⟨fun _ => recordPlain (by decide) (by decide)⟩

end Wire
end Turnstile
