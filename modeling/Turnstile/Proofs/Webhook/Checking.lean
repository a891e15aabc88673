import Turnstile.Manifest.Check
import Turnstile.Proofs.Webhook.Judging
/-! What checking a trigger says of the requests to it. A filter is compiled when it is checked and
again when a request meets it, and fails in the same way both times. -/
namespace Turnstile
open Procedure

/-- Failures that lie in the text of a filter, and not in what it is given. -/
def FilterError.isStatic : FilterError → Bool
  | malformed _ | offBoundary | unknownVariable _ | notBooleanProgram => true
  | evalFailed _ | notBoolean _ => false

namespace Filter
variable {source : String} {body headers : Json} {e : FilterError}

theorem evaluateDynamic {f : Filter} (failed : f.evaluate body headers = .error e) : e.isStatic = false := by
  unfold evaluate evaluateIn at failed
  split at failed <;> cases failed <;> rfl

theorem verdictStatic (failed : verdict source body headers = .error e) (static : e.isStatic = true) :
    Text.isAllBlank source = false ∧ compile source = .error e := by
  unfold verdict at failed
  split at failed
  · cases failed
  · rename_i blank
    split at failed
    · rename_i compiled
      cases failed
      exact ⟨Bool.not_eq_true _ ▸ blank, compiled⟩
    · cases static.symm.trans (evaluateDynamic failed)

end Filter

def TriggerSpec.filters (spec : TriggerSpec) : List String := spec.filter :: spec.rules.map (·.filter)

namespace Procedure
variable {α : Type} {allowed : List Told → Call → Prop} {told : List Told}

inductive MayEnd : Procedure α → α → Prop
  | done (a : α) : MayEnd (.done a) a
  | call {c : Call} {next : c.Reply → Procedure α} {a : α} (reply : c.Reply)
      (rest : MayEnd (next reply) a) : MayEnd (.call c next) a

theorem Obeys.mayEnd {p : Procedure α} {holds : α → Prop} {a : α}
    (ends : Obeys allowed (fun _ => holds) told p) (may : p.MayEnd a) : holds a := by
  induction may generalizing told with
  | done a => exact ends
  | call reply _ ih => exact ih (ends.2 reply)

end Procedure

namespace Webhook
variable {spec : TriggerSpec} {body headers : Json} {engine after : FilterEngine} {e : FilterError}

theorem matchingFails (sound : engine.Sound) {rules : List WebhookRule}
    (failed : matchingRules spec body headers engine rules = (.error e, after)) :
    ∃ rule ∈ rules, Filter.verdict rule.filter body headers = .error e := by
  induction rules generalizing engine after with
  | nil => cases failed
  | cons rule rest ih =>
    obtain ⟨said, kept⟩ := FilterEngine.evaluateSound sound rule.filter body headers
    unfold matchingRules at failed
    split at failed
    · rename_i evaluated
      cases failed
      rw [evaluated] at said
      exact ⟨rule, List.mem_cons_self, said.symm⟩
    · rename_i evaluated
      rw [evaluated] at kept
      split at failed
      · rename_i later
        cases failed
        obtain ⟨other, listed, fails⟩ := ih kept later
        exact ⟨other, List.mem_cons_of_mem _ listed, fails⟩
      · cases failed

theorem acceptedFails (sound : engine.Sound)
    (failed : accepted spec body headers engine = (.error e, after)) :
    ∃ source ∈ spec.filters, Filter.verdict source body headers = .error e := by
  obtain ⟨said, kept⟩ := FilterEngine.evaluateSound sound spec.filter body headers
  unfold accepted at failed
  split at failed
  · rename_i evaluated
    cases failed
    rw [evaluated] at said
    exact ⟨spec.filter, List.mem_cons_self, said.symm⟩
  · cases failed
  · rename_i evaluated
    rw [evaluated] at kept
    unfold candidates at failed
    split at failed
    · cases failed
    · obtain ⟨rule, listed, fails⟩ := matchingFails kept failed
      exact ⟨rule.filter, List.mem_cons_of_mem _ (List.mem_map.mpr ⟨rule, listed, rfl⟩), fails⟩

theorem receiveNoFilter (registry : Registry) (sources : SecretSources) (request : WebhookRequest) :
    receive registry sources request ≠ .error (.filter e) := by
  intro failed
  unfold receive at failed
  split at failed
  · cases failed
  · split at failed
    · cases failed
    · split at failed
      · cases failed
      · split at failed <;> cases failed

theorem judgeFails (sound : engine.Sound) {registry : Registry} {sources : SecretSources}
    {request : WebhookRequest} (failed : judge registry sources engine request = (.error (.filter e), after)) :
    ∃ key trigger body, keyOfPath? request.path = some key ∧ registry.get? key = some trigger ∧
      ∃ source ∈ trigger.spec.filters,
        Filter.verdict source body (headersPayload request.headers) = .error e := by
  unfold judge at failed
  split at failed
  · rename_i refused
    cases failed
    exact absurd refused (receiveNoFilter registry sources request)
  · rename_i trigger body received
    obtain ⟨key, path, served⟩ := receiveServed received
    split at failed
    · rename_i fails
      cases failed
      exact ⟨key, trigger, body, path, served, acceptedFails sound fails⟩
    · split at failed <;> cases failed

theorem carryOutNoFilter (p : Plan) (names : Nat → String) (now : Instant) :
    Ends (fun _ d => d.outcome ≠ .error (.filter e)) [] (p.carryOut names now) := by
  unfold Plan.carryOut
  split
  · exact nofun
  · refine Obeys.bind ((endsTrue (makeTasks p.trigger names [] p.drafts)).weaken
      fun told result _ => ?_)
    obtain ⟨made, failure⟩ := result
    dsimp only
    split
    · refine Obeys.bind ((endsTrue (record now p.trigger.key made conflictAttempts)).weaken
        fun _ _ _ => ?_)
      cases failure <;> exact nofun
    · cases failure <;> exact nofun

theorem refusedEnds {registry : Registry} {sources : SecretSources} {names : Nat → String} {now : Instant}
    {request : WebhookRequest} {cause : WebhookError}
    (failed : (judge registry sources engine request).1 = .error cause) :
    (handle registry sources names now engine request).1.MayEnd ⟨0, .error cause⟩ := by
  unfold handle
  split
  · rename_i judged
    rw [judged] at failed
    cases failed
    exact .done _
  · rename_i judged
    rw [judged] at failed
    cases failed

end Webhook

/-- Some request to the trigger as it is served, after whatever requests the engine saw, fails with
this failure of a filter, whatever the store may answer. -/
def WebhookTrigger.MayFail (t : WebhookTrigger) (e : FilterError) : Prop :=
  ∃ (registry : Registry) (sources : SecretSources) (names : Nat → String) (now : Instant)
    (engine : FilterEngine) (request : WebhookRequest) (delivery : Webhook.Delivery),
    registry.get? t.key = some t ∧ Webhook.keyOfPath? request.path = some t.key ∧ engine.Sound ∧
    (Webhook.handle registry sources names now engine request).1.MayEnd delivery ∧
    delivery.outcome = .error (.filter e)

section
variable {t : WebhookTrigger} {e : FilterError}

theorem mayFailFilter (may : t.MayFail e) (static : e.isStatic = true) :
    ∃ source ∈ t.spec.filters, Text.isAllBlank source = false ∧ Filter.compile source = .error e := by
  obtain ⟨registry, sources, names, now, engine, request, delivery, served, path, sound, ends, outcome⟩ := may
  unfold Webhook.handle at ends
  split at ends
  · rename_i cause _ judged
    cases ends
    cases outcome
    obtain ⟨key, trigger, body, path', served', source, listed, fails⟩ := Webhook.judgeFails sound judged
    cases path.symm.trans path'
    cases served.symm.trans served'
    exact ⟨source, listed, Filter.verdictStatic fails static⟩
  · exact absurd outcome ((Webhook.carryOutNoFilter _ _ _).mayEnd ends)

end

namespace Manifest
variable {t : WebhookTrigger} {e : FilterError} {source : String}

theorem filterProblem {sources : List String} (listed : source ∈ sources)
    (given : Text.isAllBlank source = false) (fails : Filter.compile source = .error e) :
    Problem.filter source e ∈ filterProblems sources := by
  induction sources with
  | nil => cases listed
  | cons other rest ih =>
    unfold filterProblems
    rcases List.mem_cons.mp listed with rfl | later
    · rw [given, fails]
      exact List.mem_cons_self
    · split
      · exact ih later
      · split
        · exact ih later
        · exact List.mem_cons_of_mem _ (ih later)

theorem triggerProblem (may : t.MayFail e) (static : e.isStatic = true) :
    ∃ source, Problem.filter source e ∈ problems ⟨.trigger, t⟩ := by
  obtain ⟨source, listed, given, fails⟩ := mayFailFilter may static
  exact ⟨source, List.mem_append_right _ (filterProblem listed given fails)⟩

theorem problemTold {m : Manifest} {p : Problem} (listed : p ∈ m.problems) :
    "  error " ++ m.describe ++ ": " ++ p.message ∈ m.verdict := by
  unfold verdict
  split
  · rename_i clean
    rw [clean] at listed
    cases listed
  · exact List.mem_map.mpr ⟨p, listed, rfl⟩

end Manifest

namespace CheckReport
open Manifest
variable {ms : List Manifest}

theorem cleanReport (clean : (ofManifests ms).exitCode = 0) : ∀ m ∈ ms, m.problems = [] := by
  unfold ofManifests at clean
  dsimp only at clean
  split at clean
  · cases clean
  · dsimp only at clean
    split at clean
    · rename_i uncounted
      exact List.flatMap_eq_nil_iff.mp (List.length_eq_zero_iff.mp uncounted)
    · cases clean

theorem verdictTold {before rest : List Manifest} {m : Manifest} (all : ms = before ++ m :: rest)
    (whole : ∀ x ∈ before ++ [m], x.breaksOff = false) : ∀ line ∈ m.verdict, line ∈ (ofManifests ms).lines := by
  intro line inside
  have kept : m ∈ ms.takeWhile fun m => !m.breaksOff := by
    rw [all, ← List.singleton_append, ← List.append_assoc,
      List.takeWhile_append_of_pos fun x inside => by rw [whole x inside]; rfl]
    exact List.mem_append_left _ (List.mem_append_right _ List.mem_cons_self)
  have told : line ∈ (ms.takeWhile fun m => !m.breaksOff).flatMap verdict :=
    List.mem_flatMap.mpr ⟨m, kept, inside⟩
  unfold ofManifests
  dsimp only
  split
  · exact told
  · exact List.mem_append_left _ told

/-- A report without problems vouches for every trigger that was checked: it can be registered, and
no request to it fails for the text of a filter. And every such failure of a trigger is among its
problems, which the report tells unless it breaks off at the trigger or before it. -/
theorem checkedServes (ms : List Manifest) :
    ((ofManifests ms).exitCode = 0 → ∀ t : WebhookTrigger, ⟨.trigger, t⟩ ∈ ms →
      (∀ registry : Registry, ∃ registry', registry.register t = (.ok (), registry') ∧
        registry'.get? t.key = some t) ∧
      ∀ e : FilterError, e.isStatic = true → ¬ t.MayFail e) ∧
    (∀ (t : WebhookTrigger) (e : FilterError) (before rest : List Manifest),
      ms = before ++ ⟨.trigger, t⟩ :: rest → e.isStatic = true → t.MayFail e →
      (ofManifests ms).exitCode ≠ 0 ∧
      ∃ source, Problem.filter source e ∈ problems ⟨.trigger, t⟩ ∧
        ((∀ m ∈ before ++ [⟨.trigger, t⟩], m.breaksOff = false) →
          "  error " ++ describe ⟨.trigger, t⟩ ++ ": " ++ (Problem.filter source e).message ∈
            (ofManifests ms).lines)) := by
  refine ⟨fun clean t listed => ⟨fun registry => ?_, fun e static may => ?_⟩,
    fun t e before rest all static may => ?_⟩
  · have valid : t.spec.fault? = none := by
      have first := (List.append_eq_nil_iff.mp (cleanReport clean _ listed)).1
      rwa [Option.toList_eq_nil_iff, Option.map_eq_none_iff] at first
    refine ⟨⟨registry.triggers.insert t.key t⟩, ?_, SortedMap.getInsertSame registry.triggers t.key t⟩
    simp only [Registry.register, valid]
  · obtain ⟨source, inside⟩ := triggerProblem may static
    rw [cleanReport clean _ listed] at inside
    cases inside
  · obtain ⟨source, inside⟩ := triggerProblem may static
    refine ⟨fun clean => ?_, source, inside, fun whole => verdictTold all whole _ (problemTold inside)⟩
    have listed : ⟨.trigger, t⟩ ∈ ms := by
      rw [all]
      exact List.mem_append_right _ List.mem_cons_self
    rw [cleanReport clean _ listed] at inside
    cases inside

def filtering (name filter : String) : WebhookTrigger :=
  ⟨Metadata.ofKey ⟨"default", name⟩,
    ⟨none, filter, .allow, some ⟨"", none, [], [], none, .empty⟩, []⟩, .fresh⟩

def vainName? : Except WebhookError Webhook.Plan → Option String
  | .error (.filter (.unknownVariable name)) => some name
  | _ => none

theorem failedInVain {judged : Except WebhookError Webhook.Plan} {name : String}
    (vain : vainName? judged = some name) : judged = .error (.filter (.unknownVariable name)) := by
  unfold vainName? at vain
  split at vain
  · cases vain
    rfl
  · cases vain

theorem nopeFails : (filtering "b" "nope").MayFail (.unknownVariable "nope") := by
  let registry := (Registry.empty.register (filtering "b" "nope")).2
  let request : WebhookRequest := ⟨"default/b", .empty, Auth.bytesOf "\x7b\x7d"⟩
  have judged : vainName? (Webhook.judge registry ⟨none, .empty⟩ .empty request).1 = some "nope" := by
    decide +kernel
  exact ⟨registry, ⟨none, .empty⟩, fun _ => "", default, .empty, request, _, by decide +kernel,
    by decide +kernel, FilterEngine.emptySound, Webhook.refusedEnds (failedInVain judged), rfl⟩

theorem lastTold :
    ((∀ registry : Registry, ∃ registry', registry.register (filtering "a" "body.ok") = (.ok (), registry') ∧
        registry'.get? ⟨"default", "a"⟩ = some (filtering "a" "body.ok")) ∧
      ¬ (filtering "a" "body.ok").MayFail (.unknownVariable "nope")) ∧
    (ofManifests [⟨.trigger, filtering "a" "body.ok"⟩, ⟨.trigger, filtering "b" "nope"⟩]).exitCode ≠ 0 ∧
    ∃ source, "  error WebhookTrigger default/b: " ++ (Problem.filter source (.unknownVariable "nope")).message ∈
      (ofManifests [⟨.trigger, filtering "a" "body.ok"⟩, ⟨.trigger, filtering "b" "nope"⟩]).lines := by
  have served := (checkedServes [⟨.trigger, filtering "a" "body.ok"⟩]).1 (by decide +kernel) _ List.mem_cons_self
  obtain ⟨fails, source, -, told⟩ :=
    (checkedServes [⟨.trigger, filtering "a" "body.ok"⟩, ⟨.trigger, filtering "b" "nope"⟩]).2
      (filtering "b" "nope") (.unknownVariable "nope") [⟨.trigger, filtering "a" "body.ok"⟩] [] rfl rfl nopeFails
  refine ⟨⟨served.1, served.2 _ rfl⟩, fails, source, told fun m inside => ?_⟩
  rcases List.mem_cons.mp inside with rfl | last
  · decide +kernel
  · rw [List.mem_singleton.mp last]
    decide +kernel

/-- The text of the first filter is cut inside its last letter, and nothing is told of the second. -/
theorem cutHidesLater :
    (filtering "b" "nope").MayFail (.unknownVariable "nope") ∧
    ofManifests [⟨.trigger, filtering "a" "body.a == 'é'"⟩, ⟨.trigger, filtering "b" "nope"⟩] = ⟨[], 101⟩ :=
  ⟨nopeFails, by decide +kernel⟩

end CheckReport
end Turnstile
