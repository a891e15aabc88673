import Turnstile.Webhook.Intake
import Turnstile.Proofs.Filter.Engine
import Turnstile.Proofs.Webhook.Registry
/-! How a request is judged: which trigger it is for, and which of its rules, or its one
template, each draft comes from. -/
namespace Turnstile

def WebhookRule.fires (rule : WebhookRule) (body headers : Json) : Bool :=
  match Filter.verdict rule.filter body headers with
  | .ok accepted => accepted
  | .error _ => false

namespace TriggerSpec

def candidate (spec : TriggerSpec) (rule : WebhookRule) : Webhook.Candidate :=
  ⟨some rule.name, spec.policyFor rule, rule.taskTemplate⟩

end TriggerSpec

namespace Webhook
variable {spec : TriggerSpec} {body headers : Json} {engine after : FilterEngine}

inductive Draft.From (spec : TriggerSpec) : Draft → Prop where
  | template {b s} (only : spec.taskTemplate = some b) : From spec ⟨none, spec.concurrencyPolicy, b.labels, s⟩
  | rule {rule s} (bare : spec.taskTemplate = none) (listed : rule ∈ spec.rules) :
      From spec ⟨some rule.name, spec.policyFor rule, rule.taskTemplate.labels, s⟩

theorem matchingListed {rules : List WebhookRule} {cs : List Candidate}
    (found : matchingRules spec body headers engine rules = (.ok cs, after)) :
    ∀ c ∈ cs, ∃ rule ∈ rules, c = spec.candidate rule := by
  induction rules generalizing engine cs after with
  | nil =>
    cases found
    exact fun _ inside => nomatch inside
  | cons rule rest ih =>
    unfold matchingRules at found
    split at found
    · cases found
    · split at found
      · cases found
      · rename_i accepted _ _ _ more _ later
        cases found
        intro c inside
        have tail : c ∈ more → ∃ other ∈ rule :: rest, c = spec.candidate other := by
          intro there
          obtain ⟨other, listed, same⟩ := ih later c there
          exact ⟨other, List.mem_cons_of_mem _ listed, same⟩
        cases accepted with
        | false => exact tail inside
        | true =>
          rcases List.mem_cons.mp inside with rfl | there
          · exact ⟨rule, List.mem_cons_self, rfl⟩
          · exact tail there

theorem matchingFires (sound : engine.Sound) {rules : List WebhookRule}
    (filters : ∀ rule ∈ rules, ∃ accepted, Filter.verdict rule.filter body headers = .ok accepted) :
    (matchingRules spec body headers engine rules).1 =
      .ok ((rules.filter (·.fires body headers)).map spec.candidate) := by
  induction rules generalizing engine with
  | nil => rfl
  | cons rule rest ih =>
    obtain ⟨said, after⟩ := FilterEngine.evaluateSound sound rule.filter body headers
    obtain ⟨accepted, verdict⟩ := filters rule List.mem_cons_self
    rw [verdict] at said
    unfold matchingRules
    generalize engine.evaluate rule.filter body headers = evaluated at said after ⊢
    obtain ⟨reply, engine⟩ := evaluated
    cases said
    have later := ih after fun other inside => filters other (List.mem_cons_of_mem _ inside)
    dsimp only
    generalize matchingRules spec body headers engine rest = found at later ⊢
    obtain ⟨reply, engine⟩ := found
    cases later
    have fires : rule.fires body headers = accepted := by
      unfold WebhookRule.fires
      rw [verdict]
    rw [List.filter_cons, fires]
    cases accepted <;> rfl

theorem acceptedFires (sound : engine.Sound) (accepts : Filter.verdict spec.filter body headers = .ok true)
    (bare : spec.taskTemplate = none)
    (filters : ∀ rule ∈ spec.rules, ∃ accepted, Filter.verdict rule.filter body headers = .ok accepted) :
    ∃ later, accepted spec body headers engine =
      (.ok ((spec.rules.filter (·.fires body headers)).map spec.candidate), later) := by
  obtain ⟨said, after⟩ := FilterEngine.evaluateSound sound spec.filter body headers
  rw [accepts] at said
  unfold accepted candidates
  rw [bare]
  generalize engine.evaluate spec.filter body headers = evaluated at said after ⊢
  obtain ⟨reply, engine⟩ := evaluated
  cases said
  have matching : (matchingRules spec body headers engine spec.rules).1 = _ := matchingFires after filters
  exact ⟨(matchingRules spec body headers engine spec.rules).2, Prod.ext matching rfl⟩

theorem acceptedListed {cs : List Candidate}
    (found : accepted spec body headers engine = (.ok cs, after)) :
    ∀ c ∈ cs, (∃ b, spec.taskTemplate = some b ∧ c = ⟨none, spec.concurrencyPolicy, b⟩) ∨
      (spec.taskTemplate = none ∧ ∃ rule ∈ spec.rules, c = spec.candidate rule) := by
  intro c inside
  unfold accepted at found
  split at found
  · cases found
  · cases found
    cases inside
  · unfold candidates at found
    split at found
    · rename_i b only
      cases found
      exact .inl ⟨b, only, List.mem_singleton.mp inside⟩
    · rename_i bare
      exact .inr ⟨bare, matchingListed found c inside⟩

theorem draftsMap {cs : List Candidate} {ds : List Draft} (rendered : drafts body cs = .ok ds) :
    cs.map (·.draft body) = ds.map .ok := by
  induction cs generalizing ds with
  | nil =>
    cases rendered
    rfl
  | cons c rest ih =>
    unfold drafts at rendered
    split at rendered
    · cases rendered
    · rename_i d first
      split at rendered
      · cases rendered
      · rename_i more others
        cases rendered
        rw [List.map_cons, List.map_cons, first, ih others]

theorem draftedFrom {c : Candidate} {d : Draft} (drafted : c.draft body = .ok d) :
    ∃ s, c.blueprint.render body = .ok s ∧ d = ⟨c.rule, c.policy, c.blueprint.labels, s⟩ := by
  unfold Candidate.draft at drafted
  split at drafted
  · cases drafted
  · rename_i s rendered
    exact ⟨s, rendered, (Except.ok.inj drafted).symm⟩

theorem draftsRules {cs : List Candidate} {ds : List Draft} (rendered : drafts body cs = .ok ds) :
    ds.map Draft.rule = cs.map Candidate.rule := by
  have each := draftsMap rendered
  clear rendered
  induction cs generalizing ds with
  | nil => rw [List.map_eq_nil_iff.mp each.symm]; rfl
  | cons c rest ih =>
    cases ds with
    | nil => cases each
    | cons d ds =>
      obtain ⟨one, more⟩ := List.cons.inj each
      obtain ⟨s, -, rfl⟩ := draftedFrom one
      rw [List.map_cons, List.map_cons, ih more]

theorem matchingNamed {rules : List WebhookRule} {cs : List Candidate}
    (found : matchingRules spec body headers engine rules = (.ok cs, after)) :
    (cs.map Candidate.rule).Sublist ((rules.map WebhookRule.name).map some) := by
  induction rules generalizing engine cs after with
  | nil =>
    cases found
    exact .slnil
  | cons rule rest ih =>
    unfold matchingRules at found
    split at found
    · cases found
    · split at found
      · cases found
      · rename_i accepted _ _ _ more _ later
        cases found
        cases accepted with
        | false => exact (ih later).cons _
        | true => exact (ih later).cons_cons _

theorem acceptedApart {cs : List Candidate} (valid : spec.fault? = none)
    (found : accepted spec body headers engine = (.ok cs, after)) : (cs.map Candidate.rule).Nodup := by
  unfold accepted at found
  split at found
  · cases found
  · cases found
    exact List.nodup_nil
  · unfold candidates at found
    split at found
    · cases found
      exact List.nodup_singleton _
    · exact (matchingNamed found).nodup ((TriggerSpec.rulesNamed valid).map fun _ _ => Option.some.inj)

section
variable {registry : Registry} {sources : SecretSources} {request : WebhookRequest} {plan : Plan}

theorem receiveServed {trigger : WebhookTrigger} (received : receive registry sources request = .ok (trigger, body)) :
    ∃ key, keyOfPath? request.path = some key ∧ registry.get? key = some trigger := by
  unfold receive at received
  split at received
  · cases received
  · rename_i key path
    split at received
    · cases received
    · rename_i found
      split at received
      · cases received
      · split at received
        · cases received
        · cases received
          exact ⟨key, path, found⟩

theorem judgedAccepted (judged : judge registry sources engine request = (.ok plan, after)) :
    ∃ key body cs, keyOfPath? request.path = some key ∧ registry.get? key = some plan.trigger ∧
      accepted plan.trigger.spec body (headersPayload request.headers) engine = (.ok cs, after) ∧
      drafts body cs = .ok plan.drafts := by
  unfold judge at judged
  split at judged
  · cases judged
  · rename_i trigger body received
    obtain ⟨key, path, found⟩ := receiveServed received
    split at judged
    · cases judged
    · rename_i matched
      split at judged
      · cases judged
      · rename_i rendered
        cases judged
        exact ⟨key, body, _, path, found, matched, rendered⟩

theorem judgedFrom (judged : judge registry sources engine request = (.ok plan, after)) :
    (∃ key, registry.get? key = some plan.trigger) ∧ ∀ d ∈ plan.drafts, d.From plan.trigger.spec := by
  obtain ⟨key, body, cs, -, served, matched, rendered⟩ := judgedAccepted judged
  refine ⟨⟨key, served⟩, fun d inside => ?_⟩
  have listed : Except.ok d ∈ cs.map (·.draft body) := by
    rw [draftsMap rendered]
    exact List.mem_map.mpr ⟨d, inside, rfl⟩
  obtain ⟨c, there, drafted⟩ := List.mem_map.mp listed
  obtain ⟨s, -, rfl⟩ := draftedFrom drafted
  rcases acceptedListed matched c there with ⟨b, only, rfl⟩ | ⟨bare, rule, own, rfl⟩
  · exact .template only
  · exact .rule bare own

theorem judgedApart (served : registry.Sound)
    (judged : judge registry sources engine request = (.ok plan, after)) :
    (plan.drafts.map Draft.rule).Nodup := by
  obtain ⟨key, body, cs, -, found, matched, rendered⟩ := judgedAccepted judged
  rw [draftsRules rendered]
  exact acceptedApart (served.valid key plan.trigger found) matched

end

end Webhook
end Turnstile
