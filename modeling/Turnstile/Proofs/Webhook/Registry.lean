import Mathlib.Data.List.Nodup
import Turnstile.Controller.Triggers
import Turnstile.Proofs.Procedure
/-! What is served. Every trigger stands under its own key and is valid, so that its rules
have names of their own and stand beside no template; syncs keep it so. -/
namespace Turnstile
open Procedure

namespace TriggerSpec
variable {spec : TriggerSpec}

def policyFor (spec : TriggerSpec) (rule : WebhookRule) : ConcurrencyPolicy :=
  rule.concurrencyPolicy.getD spec.concurrencyPolicy

theorem ruleFaultNone {seen : List String} {rules : List WebhookRule}
    (sound : ruleFault? seen rules = none) :
    (rules.map WebhookRule.name).Nodup ∧ ∀ rule ∈ rules, rule.name ∉ seen := by
  induction rules generalizing seen with
  | nil => exact ⟨List.nodup_nil, fun _ inside => nomatch inside⟩
  | cons rule rest ih =>
    unfold ruleFault? at sound
    split at sound
    · cases sound
    · split at sound
      · cases sound
      · rename_i new
        obtain ⟨distinct, unseen⟩ := ih sound
        refine ⟨List.nodup_cons.mpr ⟨fun inside => ?_, distinct⟩, fun other inside => ?_⟩
        · obtain ⟨twin, there, same⟩ := List.mem_map.mp inside
          exact unseen twin there (same ▸ List.mem_cons_self)
        · rcases List.mem_cons.mp inside with rfl | later
          · simpa using new
          · exact fun before => unseen other later (List.mem_cons_of_mem _ before)

theorem rulesNamed (sound : spec.fault? = none) : (spec.rules.map WebhookRule.name).Nodup := by
  unfold fault? at sound
  split at sound
  · cases sound
  · cases sound
  · exact (ruleFaultNone sound).1

theorem ruleOfName (sound : spec.fault? = none) {rule other : WebhookRule} (listed : rule ∈ spec.rules)
    (listed' : other ∈ spec.rules) (same : rule.name = other.name) : rule = other :=
  List.inj_on_of_nodup_map (rulesNamed sound) listed listed' same

theorem rulesOnly (sound : spec.fault? = none) (ruled : spec.rules ≠ []) : spec.taskTemplate = none := by
  unfold fault? at sound
  split at sound
  · cases sound
  · cases sound
  · rename_i both
    cases template : spec.taskTemplate with
    | none => rfl
    | some b =>
      cases rules : spec.rules with
      | nil => exact absurd rules ruled
      | cons rule rest => exact (both b rule rest template rules).elim

end TriggerSpec

namespace Registry
variable {r : Registry} {key : Key} {t : WebhookTrigger}

structure Sound (r : Registry) : Prop where
  keyed : ∀ key t, r.get? key = some t → t.key = key
  valid : ∀ key t, r.get? key = some t → t.spec.fault? = none

theorem emptySound : Registry.empty.Sound := by
  constructor <;> (intro key t found; cases found)

theorem Sound.fewer {s : Registry} (sound : r.Sound)
    (fewer : ∀ key t, s.get? key = some t → r.get? key = some t) : s.Sound :=
  ⟨fun key t found => sound.keyed key t (fewer key t found),
    fun key t found => sound.valid key t (fewer key t found)⟩

theorem erased {gone : Key} (found : Registry.get? ⟨r.triggers.erase gone⟩ key = some t) :
    r.get? key = some t := by
  unfold get? at found ⊢
  by_cases same : key = gone
  · rw [same, SortedMap.getEraseSame] at found
    cases found
  · rwa [SortedMap.getEraseOther _ same] at found

theorem Sound.register (sound : r.Sound) (t : WebhookTrigger) : (r.register t).2.Sound := by
  unfold Registry.register
  split
  · exact sound.fewer fun _ _ => erased
  · rename_i faultless
    have stood : ∀ key u, Registry.get? ⟨r.triggers.insert t.key t⟩ key = some u →
        (key = t.key ∧ u = t) ∨ r.get? key = some u := by
      intro key u found
      unfold get? at found
      by_cases same : key = t.key
      · rw [same, SortedMap.getInsertSame] at found
        exact .inl ⟨same, (Option.some.inj found).symm⟩
      · rw [SortedMap.getInsertOther _ _ same] at found
        exact .inr found
    constructor <;> intro key u found <;> rcases stood key u found with ⟨rfl, rfl⟩ | before
    · rfl
    · exact sound.keyed key u before
    · exact faultless
    · exact sound.valid key u before

theorem registerServes (served : (r.register t).1 = .ok ()) : (r.register t).2.get? t.key = some t := by
  unfold Registry.register at served ⊢
  split
  · rename_i fault
    simp only [fault] at served
    cases served
  · exact SortedMap.getInsertSame r.triggers t.key t

theorem Sound.unregister (sound : r.Sound) (key : Key) : (r.unregister key).2.Sound :=
  sound.fewer fun _ _ => erased

theorem Sound.retain (sound : r.Sound) (live : List Key) : (r.retain live).Sound := by
  refine sound.fewer fun key t found => ?_
  have inside : (key, t) ∈ (r.triggers.filter fun k _ => live.contains k).entries :=
    SortedMap.memEntries.mpr found
  exact SortedMap.memEntries.mp (List.mem_filter.mp inside).1

end Registry

namespace TriggerController
variable {registry : Registry} {told : List Told}

theorem syncSound (base : String) (sound : registry.Sound) (key : Key) :
    Ends (fun _ r => r.Sound) told (sync base registry key) := by
  refine Obeys.bind ⟨trivial, fun found => ?_⟩
  cases found with
  | error e => exact sound
  | ok found =>
    cases found with
    | none => exact sound.unregister key
    | some trigger =>
      have after := sound.register trigger
      dsimp only [Obeys]
      split
      · rename_i same
        rw [same] at after
        exact after
      · rename_i same
        rw [same] at after
        exact Obeys.bind ((endsTrue _).weaken fun _ _ _ => after)

theorem syncAllSound (base : String) (sound : registry.Sound) (keys : List Key) :
    Ends (fun _ r => r.Sound) told (syncAll base registry keys) := by
  induction keys generalizing registry told with
  | nil => exact sound
  | cons key rest ih =>
    exact Obeys.bind ((syncSound base sound key).weaken fun _ registry sound => ih sound)

theorem resyncSound (base : String) (sound : registry.Sound) :
    Ends (fun _ r => r.Sound) told (resync base registry) := by
  refine ⟨trivial, fun listed => ?_⟩
  cases listed with
  | error e => exact sound
  | ok stored => exact syncAllSound base (sound.retain _) _

theorem soundRun {p : Procedure Registry} (ends : Ends (fun _ r => r.Sound) [] p) (now : Instant) (b : Backend) :
    (p.run now b).1.Sound :=
  ends.runResult

end TriggerController
end Turnstile
