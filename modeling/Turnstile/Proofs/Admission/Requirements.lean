import Turnstile.Proofs.Admission.Line
import Turnstile.Proofs.Reconcile.Rounds
import Turnstile.Proofs.Task.Conditions
/-! What a start asks for. A task that waits is started exactly if it meets every requirement, and one
that is not started is told the first that it does not meet. -/
namespace Turnstile
open Admission Reconcile

inductive Requirement where
  | backoffOver | templateFound | agentNamed | agentFound | namespaceAllowed | slotFree | startFree
  | workloadAccepted
  deriving DecidableEq, Repr

namespace Requirement

def order : List Requirement :=
  [backoffOver, templateFound, agentNamed, agentFound, namespaceAllowed, slotFree, startFree, workloadAccepted]

def reason? : Requirement → Option String
  | backoffOver => none
  | templateFound => some "TemplateNotFound"
  | agentNamed => some "AgentNotSpecified"
  | agentFound => some "AgentNotFound"
  | namespaceAllowed => some "NamespaceNotAllowed"
  | slotFree => some "AgentAtCapacity"
  | startFree => some "QuotaExceeded"
  | workloadAccepted => some "WorkloadCreateFailed"

def mergedSpec (s : Store) (t : Task) : Option TaskSpec :=
  match t.spec.templateRef with
  | none => some t.spec
  | some ref => (s.get? .template (ref.resolve t.metadata.ns)).map (·.spec.mergeInto t.spec)

def namedAgent (s : Store) (t : Task) : Option Key :=
  (mergedSpec s t).bind fun spec => spec.agentRef.map (·.resolve t.metadata.ns)

def agentFor (s : Store) (t : Task) : Option Agent := (namedAgent s t).bind (s.get? .agent)

def ahead (s : Store) (now : Instant) (agent : Agent) (t : Task) : Nat :=
  s.tasks.objects.values.countP (Task.aheadOf agent.key now t)

def runningFor (s : Store) (agent : Agent) : Nat := s.tasks.objects.values.countP (Task.runsFor agent.key)

def startedFor (s : Store) (now : Instant) (agent : Agent) (quota : AgentQuota) : Nat :=
  s.tasks.objects.values.countP (Task.startedWithin agent.key (window quota) now)

def met (now : Instant) (b : Backend) (t : Task) : Requirement → Bool
  | backoffOver => t.status.retryAfter.all fun retryAt => !decide (now < retryAt)
  | templateFound => (mergedSpec b.store t).isSome
  | agentNamed => (namedAgent b.store t).isSome
  | agentFound => (agentFor b.store t).isSome
  | namespaceAllowed => (agentFor b.store t).any (·.allowsNamespace t.metadata.ns)
  | slotFree => (agentFor b.store t).any fun agent => agent.spec.maxConcurrentTasks.all fun max =>
      runningFor b.store agent + ahead b.store now agent t < max.toNat
  | startFree => (agentFor b.store t).any fun agent => agent.spec.quota.all fun quota =>
      startedFor b.store now agent quota + ahead b.store now agent t < quota.maxTaskStarts.toNat
  | workloadAccepted => (agentFor b.store t).any fun agent => (mergedSpec b.store t).any fun spec =>
      ((clearedFor b t).workloads.create now (nextRun t ⟨agent, spec⟩)).1.isOk

def firstUnmet (now : Instant) (b : Backend) (t : Task) : Option Requirement :=
  order.find? fun q => !q.met now b t

section
variable {now : Instant} {b : Backend} {t : Task} {resolved : Resolved}

theorem inOrder (q : Requirement) : q ∈ order := by
  cases q <;> decide

theorem noneUnmet : firstUnmet now b t = none ↔ ∀ q : Requirement, q.met now b t = true := by
  rw [firstUnmet, List.find?_eq_none]
  exact ⟨fun met q => by simpa using met q (inOrder q), fun met q _ => by simpa using met q⟩

theorem dueUnmet (due : Due now t) : firstUnmet now b t = order.tail.find? fun q => !q.met now b t := by
  have past : backoffOver.met now b t = true := by
    unfold met
    cases set : t.status.retryAfter with
    | none => rfl
    | some retryAt => simpa using due retryAt set
  exact List.find?_cons_of_neg (by simp [past])

theorem earlyUnmet {retryAt : Instant} (early : BackingOff now t retryAt) :
    firstUnmet now b t = some backoffOver := by
  simp [firstUnmet, order, met, early.1, early.2]

inductive Search (s : Store) (t : Task) : Except Block Resolved → Prop where
  | noTemplate {key} (merged : mergedSpec s t = none) : Search s t (.error (.templateNotFound key))
  | unnamed {spec} (merged : mergedSpec s t = some spec) (named : namedAgent s t = none) :
      Search s t (.error .agentNotSpecified)
  | noAgent {spec key} (merged : mergedSpec s t = some spec) (named : namedAgent s t = some key)
      (found : agentFor s t = none) : Search s t (.error (.agentNotFound key))
  | foreign {spec key agent} (merged : mergedSpec s t = some spec) (named : namedAgent s t = some key)
      (found : agentFor s t = some agent) (denied : agent.allowsNamespace t.metadata.ns = false) :
      Search s t (.error (.namespaceNotAllowed key t.metadata.ns))
  | found {spec key agent} (merged : mergedSpec s t = some spec) (named : namedAgent s t = some key)
      (found : agentFor s t = some agent) (allowed : agent.allowsNamespace t.metadata.ns = true) :
      Search s t (.ok ⟨agent, spec⟩)

theorem effectiveMerged (s : Store) (t : Task) :
    (∃ spec, effectiveSpecIn s t = .ok spec ∧ mergedSpec s t = some spec) ∨
      ∃ key, effectiveSpecIn s t = .error (.templateNotFound key) ∧ mergedSpec s t = none := by
  unfold effectiveSpecIn mergedSpec
  cases t.spec.templateRef with
  | none => exact .inl ⟨_, rfl, rfl⟩
  | some ref =>
    dsimp only
    cases s.get? .template (ref.resolve t.metadata.ns) with
    | none => exact .inr ⟨_, rfl, rfl⟩
    | some template => exact .inl ⟨_, rfl, rfl⟩

theorem searched (s : Store) (t : Task) : Search s t (resolveIn s t) := by
  unfold resolveIn
  rcases effectiveMerged s t with ⟨spec, read, merged⟩ | ⟨key, read, merged⟩ <;> rw [read]
  · dsimp only
    cases ref : spec.agentRef with
    | none => exact .unnamed merged (by simp [namedAgent, merged, ref])
    | some ref_ =>
      have named : namedAgent s t = some (ref_.resolve t.metadata.ns) := by simp [namedAgent, merged, ref]
      dsimp only
      cases stored : s.get? .agent (ref_.resolve t.metadata.ns) with
      | none => exact .noAgent merged named (by simp [agentFor, named, stored])
      | some agent =>
        have found : agentFor s t = some agent := by simp [agentFor, named, stored]
        dsimp only
        split
        · rename_i allowed
          exact .found merged named found allowed
        · rename_i denied
          exact .foreign merged named found (Bool.eq_false_iff.mpr denied)
  · exact .noTemplate merged

theorem unresolvedUnmet {cause : Block} (due : Due now t) (unresolved : resolveIn b.store t = .error cause) :
    ∃ q, firstUnmet now b t = some q ∧ q.reason? = some cause.reason := by
  have search := searched b.store t
  rw [unresolved] at search
  rw [dueUnmet due]
  cases search with
  | noTemplate merged => exact ⟨templateFound, by simp [order, met, merged], rfl⟩
  | unnamed merged named => exact ⟨agentNamed, by simp [order, met, merged, named], rfl⟩
  | noAgent merged named found => exact ⟨agentFound, by simp [order, met, merged, named, found], rfl⟩
  | foreign merged named found denied =>
    exact ⟨namespaceAllowed, by simp [order, met, merged, named, found, denied], rfl⟩

theorem resolvedFor {s : Store} (resolves : resolveIn s t = .ok resolved) :
    mergedSpec s t = some resolved.spec ∧ (namedAgent s t).isSome = true ∧
      agentFor s t = some resolved.agent ∧ resolved.agent.allowsNamespace t.metadata.ns = true := by
  have search := searched s t
  rw [resolves] at search
  cases search with
  | found merged named found allowed => exact ⟨merged, by rw [named]; rfl, found, allowed⟩

theorem resolvedUnmet (due : Due now t) (resolves : resolveIn b.store t = .ok resolved) :
    firstUnmet now b t = [slotFree, startFree, workloadAccepted].find? fun q => !q.met now b t := by
  obtain ⟨merged, named, found, allowed⟩ := resolvedFor resolves
  have first : [templateFound, agentNamed, agentFound, namespaceAllowed].find? (fun q => !q.met now b t) = none := by
    simp [met, merged, named, found, allowed]
  have parts : order.tail = [templateFound, agentNamed, agentFound, namespaceAllowed] ++
    [slotFree, startFree, workloadAccepted] := rfl
  rw [dueUnmet due, parts, List.find?_append, first]
  rfl

theorem headroomExceeds {limit : Option UInt32} {used n : Nat} :
    (Headroom.ofUsage limit used).exceeds n = limit.all fun max => decide (used + n < max.toNat) := by
  cases limit with
  | none => rfl
  | some max =>
    simp only [Headroom.ofUsage, Headroom.exceeds, Option.all_some, decide_eq_decide]
    omega

theorem aheadCounted {s : Store} {agent : Agent} : aheadIn s now agent t = ahead s now agent t := by
  unfold aheadIn ahead
  rw [aheadCount, Store.listAll]
  rfl

theorem createAccepts (w : Workloads) (spec : WorkloadSpec) :
    (w.create now spec).1.isOk = !Text.isAllBlank spec.agent.spec.image := by
  unfold Workloads.create
  split
  · rename_i blank
    rw [blank]
    rfl
  · rename_i image
    rw [Bool.eq_false_iff.mpr image]
    split <;> rfl

theorem limitsMet (now : Instant) (found : resolveIn b.store t = .ok resolved) :
    slotFree.met now b t =
        (capacityIn b.store resolved.agent).exceeds (aheadIn b.store now resolved.agent t) ∧
      startFree.met now b t =
        (quotaIn b.store now resolved.agent).remaining.exceeds (aheadIn b.store now resolved.agent t) ∧
      workloadAccepted.met now b t = !Text.isAllBlank resolved.agent.spec.image := by
  obtain ⟨given, -, there, -⟩ := resolvedFor found
  refine ⟨?_, ?_, ?_⟩
  · rw [met, there, capacityCounted, headroomExceeds, aheadCounted]
    rfl
  · rw [met, there, quotaCounted, aheadCounted]
    simp only [headroomExceeds, Option.any_some, Option.all_some]
    rfl
  · rw [met, given, there]
    exact createAccepts _ _

end

structure Held (b after : Backend) (t : Task) (unmet : Requirement) (u : Task) : Prop where
  phase : u.phase = t.phase ∨ u.phase = .queued
  attempts : u.status.attempts = t.status.attempts
  workloads : ∀ run record, after.workloads.records.get? run = some record →
    b.workloads.records.get? run = some record
  told : ∀ reason, unmet.reason? = some reason → ∃ ready, u.status.condition? Condition.ready = some ready ∧
    ready.status = .false ∧ ready.reason = reason

section
variable {r : Reconciler} {now : Instant} {b after : Backend} {t : Task} {q : Requirement}
  {outcome : ReconcileOutcome}

theorem clearedKeeps {run : Key} {record : Workload}
    (found : (clearedFor b t).workloads.records.get? run = some record) :
    b.workloads.records.get? run = some record := by
  unfold clearedFor at found
  split at found
  · exact Workloads.deleteKeeps found
  · exact found

theorem heldNoted {b' : Backend} {change : TaskStatus → TaskStatus} {reason message : String}
    (stored : b.store.get? .task t.key = some t) (same : b'.store = b.store)
    (workloads : ∀ run record, b'.workloads.records.get? run = some record →
      b.workloads.records.get? run = some record)
    (phase : (change t.status).phase = some t.phase ∨ (change t.status).phase = some .queued)
    (attempts : (change t.status).attempts = t.status.attempts)
    (told : Shows (change t.status) Condition.ready .false reason message)
    (why : q.reason? = some reason) :
    ∃ u, (b'.noted t change).store.get? .task t.key = some u ∧ Held b (b'.noted t change) t q u := by
  rw [← same] at stored
  obtain ⟨version, written, -⟩ := Backend.notedCount change stored
  have becomes {p : Phase} (same : (change t.status).phase = some p) :
      (t.withStatus version (t.changed change)).phase = p := by
    simp [Task.phase, Task.withStatus, Task.changed, same]
  refine ⟨_, written, phase.imp becomes becomes, attempts, ?_, ?_⟩
  · rw [Backend.notedWorkloads]
    exact workloads
  · intro other given
    cases why.symm.trans given
    obtain ⟨time, told⟩ := told
    exact ⟨_, told, rfl, rfl⟩

theorem gateDecides (gate : Gate r now b t outcome after) (stored : b.store.get? .task t.key = some t) :
    (firstUnmet now b t = none ∧ after.phase? t.key = some .running) ∨
    ∃ q, firstUnmet now b t = some q ∧ ∃ u, after.store.get? .task t.key = some u ∧ Held b after t q u := by
  cases gate with
  | backingOff early =>
    exact .inr ⟨_, earlyUnmet early, t, stored, .inl rfl, rfl, fun _ _ => id, nofun⟩
  | blocked due unresolved =>
    obtain ⟨q, first, why⟩ := unresolvedUnmet due unresolved
    exact .inr ⟨q, first, heldNoted stored rfl (fun _ _ => id) (.inl rfl) rfl (blockedShows ..) why⟩
  | crowded due found full =>
    obtain ⟨slot, -⟩ := limitsMet now found
    have first : firstUnmet now b t = some slotFree := by simp [resolvedUnmet due found, slot, full]
    exact .inr ⟨_, first, heldNoted stored rfl (fun _ _ => id) (.inr rfl) rfl (queuedShows ..).2 rfl⟩
  | overQuota due found room spent =>
    obtain ⟨slot, start, -⟩ := limitsMet now found
    have first : firstUnmet now b t = some startFree := by
      simp [resolvedUnmet due found, slot, room, start, spent]
    exact .inr ⟨_, first, heldNoted stored rfl (fun _ _ => id) (.inr rfl) rfl (queuedShows ..).2 rfl⟩
  | refused due found room allowance blank =>
    obtain ⟨slot, start, accepted⟩ := limitsMet now found
    have first : firstUnmet now b t = some workloadAccepted := by
      simp [resolvedUnmet due found, slot, room, start, allowance, accepted, blank]
    exact .inr ⟨_, first, heldNoted stored clearedStore (fun _ _ => clearedKeeps) (.inl rfl) rfl
      (blockedShows ..) rfl⟩
  | started due found room allowance image =>
    obtain ⟨slot, start, accepted⟩ := limitsMet now found
    have none_ : firstUnmet now b t = none := by
      simp [resolvedUnmet due found, slot, room, start, allowance, accepted, image]
    exact .inl ⟨none_, Backend.startedPhase stored _⟩

end
end Requirement

open Requirement in
/-- A task that waits is started exactly if it meets every requirement. Else it is held, and told the
first that it does not meet. -/
theorem startedIfMet {b : Backend} {key : Key} {t : Task} (stored : b.store.get? .task key = some t)
    (waits : t.phase = .pending ∨ t.phase = .queued) (free : t.stopRequested = false) (r : Reconciler)
    (now : Instant) :
    let after := ((r.reconcile now key).run now b).2
    (after.phase? key = some .running ↔ ∀ q : Requirement, q.met now b t = true) ∧
    ∀ q, firstUnmet now b t = some q →
      ∃ u, after.store.get? .task key = some u ∧ Held b after t q u := by
  have own : t.key = key := b.store.tasks.keyed stored
  subst own
  obtain ⟨outcome, -, visit⟩ := reconcileVisits r now b t.key
  dsimp only
  rcases gateDecides (visit.gate stored waits free) stored with ⟨none_, running⟩ | ⟨q, first, u, found, held⟩
  · exact ⟨iff_of_true running (noneUnmet.mp none_), fun q first => by rw [none_] at first; cases first⟩
  · refine ⟨iff_of_false ?_ ?_, fun p other => ?_⟩
    · have idle : u.phase ≠ .running := by
        rcases held.phase with same | same
        · rw [same]
          rcases waits with waits | waits <;> rw [waits] <;> decide
        · rw [same]
          decide
      rw [Backend.phase?, found]
      exact fun running => idle (Option.some.inj running)
    · rw [← noneUnmet, first]
      exact Option.some_ne_none q
    · cases first.symm.trans other
      exact ⟨u, found, held⟩

theorem youngerHeld : ∃ t, (Backend.lined default ⟨"ns", "agent"⟩ ⟨"ns", "one"⟩ ⟨"ns", "two"⟩).store.get? .task
      ⟨"ns", "two"⟩ = some t ∧ (t.phase = .pending ∨ t.phase = .queued) ∧ t.stopRequested = false ∧
    ∃ u, ((Reconciler.bare.reconcile default ⟨"ns", "two"⟩).run default
        (Backend.lined default ⟨"ns", "agent"⟩ ⟨"ns", "one"⟩ ⟨"ns", "two"⟩)).2.store.get? .task
          ⟨"ns", "two"⟩ = some u ∧
      ∃ ready, u.status.condition? Condition.ready = some ready ∧ ready.status = .false ∧
        ready.reason = "AgentAtCapacity" := by
  have facts : ((Backend.lined default ⟨"ns", "agent"⟩ ⟨"ns", "one"⟩ ⟨"ns", "two"⟩).store.get? .task
      ⟨"ns", "two"⟩).map (fun t => (t.phase, t.stopRequested, Requirement.firstUnmet default
        (Backend.lined default ⟨"ns", "agent"⟩ ⟨"ns", "one"⟩ ⟨"ns", "two"⟩) t)) =
      some (.queued, false, some .slotFree) := by
    decide +kernel
  obtain ⟨t, stored, facts⟩ := Option.map_eq_some_iff.mp facts
  obtain ⟨queued, free, first⟩ : t.phase = .queued ∧ t.stopRequested = false ∧ _ := by
    simpa only [Prod.mk.injEq] using facts
  obtain ⟨u, found, held⟩ := (startedIfMet stored (.inr queued) free .bare default).2 _ first
  exact ⟨t, stored, .inr queued, free, u, found, held.told _ rfl⟩

end Turnstile
