import Turnstile.Proofs.Admission.Moves
import Turnstile.Proofs.Reconcile.Rounds
import Turnstile.Proofs.Task.Conditions
/-! Tasks that wait and go on waiting. What a reconcile wrote of them does not move what the gates look
at, so the next one comes to the same gate, and has nothing to write. -/
namespace Turnstile
open Admission Reconcile

namespace Reconcile

variable {r : Reconciler} {now : Instant} {b b' after later : Backend} {t : Task}
  {outcome other : ReconcileOutcome} {agent : Agent} {change : TaskStatus → TaskStatus}

theorem gateSame (one : Gate r now b t outcome after) (two : Gate r now b t other later) : later = after := by
  have waits {retryAt : Instant} (due : Due now t) : ¬ BackingOff now t retryAt := fun early =>
    due retryAt early.1 early.2
  cases one with
  | backingOff early =>
    cases two with
    | backingOff => rfl
    | blocked due | crowded due | overQuota due | refused due | started due => exact absurd early (waits due)
  -- What a gate found of the task is what every other found otherwise.
  | blocked due unresolved => cases two <;> simp_all
  | crowded due found full => cases two <;> simp_all
  | overQuota due found room spent => cases two <;> simp_all
  | refused due found room allowance blank => cases two <;> simp_all
  | started due found room allowance image => cases two <;> simp_all

section Noted

structure Renoted (b after : Backend) (t u : Task) (change : TaskStatus → TaskStatus) : Prop where
  agents : after.store.agents = b.store.agents
  templates : after.store.templates = b.store.templates
  task : ∃ version, u = t.withStatus version (t.changed change)
  count : ∀ p : Task → Bool, after.store.tasks.objects.values.countP p + (if p t then 1 else 0) =
    b.store.tasks.objects.values.countP p + if p u then 1 else 0

theorem renoted (change : TaskStatus → TaskStatus) (stored : b.store.get? .task t.key = some t)
    (same : b'.store = b.store) :
    ∃ u, (b'.noted t change).store.get? .task t.key = some u ∧ Renoted b (b'.noted t change) t u change := by
  rw [← same] at stored
  obtain ⟨version, written, count⟩ := Backend.notedCount change stored
  refine ⟨_, written, ?_, ?_, ⟨version, rfl⟩, ?_⟩
  · rw [Backend.notedAgents, same]
  · rw [Backend.notedTemplates, same]
  · rw [← same]
    exact count

namespace Renoted
variable {u : Task}

theorem stop (noted : Renoted b after t u change) : u.stopRequested = t.stopRequested := by
  obtain ⟨version, rfl⟩ := noted.task
  rfl

theorem phase {p : Phase} (noted : Renoted b after t u change) (same : (change t.status).phase = some p) :
    u.phase = p := by
  obtain ⟨version, rfl⟩ := noted.task
  simp [Task.phase, Task.withStatus, Task.changed, same]

theorem due (noted : Renoted b after t u change) (same : (change t.status).retryAfter = t.status.retryAfter)
    (due : Due now t) : Due now u := by
  obtain ⟨version, rfl⟩ := noted.task
  exact fun retryAt set => due retryAt (same.symm.trans set)

theorem resolves (noted : Renoted b after t u change) : resolveIn after.store u = resolveIn b.store t := by
  obtain ⟨version, rfl⟩ := noted.task
  exact resolveSame noted.agents noted.templates t

theorem ahead (noted : Renoted b after t u change) : aheadIn after.store now agent u = aheadIn b.store now agent t := by
  have own {v : Task} (same : v.key = t.key) : Task.aheadOf agent.key now t v = false := by
    simp [Task.aheadOf, same]
  obtain ⟨version, rfl⟩ := noted.task
  have kept : (t.withStatus version (t.changed change)).key = t.key := rfl
  have count := noted.count (Task.aheadOf agent.key now t)
  rw [own rfl, own kept] at count
  unfold aheadIn
  rw [aheadCount, aheadCount, Store.listAll, Store.listAll]
  exact count

theorem capacity (noted : Renoted b after t u change) (idle : t.phase ≠ .running) (still : u.phase ≠ .running) :
    capacityIn after.store agent = capacityIn b.store agent := by
  have count := noted.count (Task.runsFor agent.key)
  have none_ {v : Task} (idle : v.phase ≠ .running) : v.runsFor agent.key = false :=
    Bool.eq_false_iff.mpr fun runs => idle (Task.runsForIff.mp runs).1
  rw [none_ idle, none_ still] at count
  rw [capacityCounted, capacityCounted]
  exact congrArg _ count

theorem quotaSpent {n : Nat} (noted : Renoted b after t u change)
    (start : ∀ window, t.startedWithin agent.key window now = true → u.startedWithin agent.key window now = true)
    (spent : (quotaIn b.store now agent).remaining.exceeds n = false) :
    (quotaIn after.store now agent).remaining.exceeds n = false := by
  have more (window : Duration) : b.store.tasks.objects.values.countP (Task.startedWithin agent.key window now) ≤
      after.store.tasks.objects.values.countP (Task.startedWithin agent.key window now) := by
    have count := noted.count (Task.startedWithin agent.key window now)
    by_cases before : t.startedWithin agent.key window now = true
    · rw [if_pos before, if_pos (start window before)] at count
      omega
    · rw [if_neg before] at count
      omega
  rw [quotaCounted] at spent ⊢
  cases limit : agent.spec.quota with
  | none =>
    rw [limit] at spent
    cases spent
  | some quota =>
    rw [limit, Option.all_some] at spent
    rw [Option.all_some]
    exact Bool.eq_false_iff.mpr fun free =>
      absurd (Headroom.exceedsEased (more _) free) (Bool.eq_false_iff.mp spent)

theorem quotaSame {n : Nat} (noted : Renoted b after t u change)
    (start : ∀ window, u.startedWithin agent.key window now = t.startedWithin agent.key window now) :
    (quotaIn after.store now agent).remaining.exceeds n = (quotaIn b.store now agent).remaining.exceeds n := by
  rw [quotaCounted, quotaCounted]
  congr 1
  funext quota
  have count := noted.count (Task.startedWithin agent.key (window quota) now)
  rw [start] at count
  rw [Nat.add_right_cancel count]

theorem nothing {again : TaskStatus → TaskStatus} (noted : Renoted b after t u change)
    (same : again u.status = u.status) : after.noted u again = after := by
  obtain ⟨version, rfl⟩ := noted.task
  refine if_pos ?_
  rw [Task.changed, same]
  rfl

theorem blocked {cause : Block} (noted : Renoted b after t u (blockedStatus now t.phase cause)) :
    after.noted u (blockedStatus now u.phase cause) = after := by
  refine noted.nothing ?_
  obtain ⟨version, rfl⟩ := noted.task
  exact blockedAgain rfl (blockedShows now t.status t.phase cause)

theorem queued {wait : Wait} (noted : Renoted b after t u (queuedStatus now wait)) :
    after.noted u (queuedStatus now wait) = after := by
  refine noted.nothing ?_
  obtain ⟨version, rfl⟩ := noted.task
  obtain ⟨queued, ready⟩ := queuedShows now t.status wait
  exact queuedAgain rfl rfl queued ready

theorem startsQueued {wait : Wait} {window : Duration} (noted : Renoted b after t u (queuedStatus now wait))
    (started : t.startedWithin wait.agent.key window now = true) :
    u.startedWithin wait.agent.key window now = true := by
  obtain ⟨version, rfl⟩ := noted.task
  obtain ⟨-, start⟩ := Bool.and_eq_true_iff.mp started
  have counted : (t.withStatus version (t.changed (queuedStatus now wait))).agentKey? = some wait.agent.key :=
    Task.agentRecorded rfl
  refine Bool.and_eq_true_iff.mpr ⟨?_, start⟩
  rw [counted, beq_self_eq_true]

theorem startsBlocked {phase : Phase} {cause : Block} (noted : Renoted b after t u (blockedStatus now phase cause))
    (window : Duration) : u.startedWithin agent.key window now = t.startedWithin agent.key window now := by
  obtain ⟨version, rfl⟩ := noted.task
  rfl

theorem cleared {phase : Phase} {cause : Block} (noted : Renoted b after t u (blockedStatus now phase cause))
    (same : after.workloads = (clearedFor b t).workloads) : clearedFor after u = after := by
  obtain ⟨version, rfl⟩ := noted.task
  change clearedFor after t = after
  unfold clearedFor at same ⊢
  split at same
  · rename_i started
    have gone : after.workloads.delete (workloadKey t t.status.attempts) = after.workloads := by
      rw [same]
      exact congrArg (fun records => { b.workloads with records })
        (SortedMap.eraseAbsent (SortedMap.getEraseSame b.workloads.records _))
    rw [if_pos started, removed, gone]
  · rename_i started
    exact if_neg started

end Renoted
end Noted

/-- A task that the gates hold comes to the same gate again, and nothing changes there. -/
theorem Gate.again (gate : Gate r now b t outcome after) (stored : b.store.get? .task t.key = some t)
    (waits : t.phase = .pending ∨ t.phase = .queued) (still : after.phase? t.key ≠ some .running) :
    ∃ u, after.store.get? .task t.key = some u ∧ (u.phase = .pending ∨ u.phase = .queued) ∧
      u.stopRequested = t.stopRequested ∧ ∃ outcome, Gate r now after u outcome after := by
  have idle : t.phase ≠ .running := by
    rcases waits with waits | waits <;> rw [waits] <;> decide
  cases gate with
  | backingOff early => exact ⟨t, stored, waits, rfl, _, .backingOff early⟩
  | @blocked cause due unresolved =>
    obtain ⟨u, found, noted⟩ := renoted (blockedStatus now t.phase cause) stored rfl
    have gate := Gate.blocked (r := r) (noted.due rfl due) (noted.resolves.trans unresolved)
    rw [noted.blocked] at gate
    exact ⟨u, found, by rwa [noted.phase rfl], noted.stop, _, gate⟩
  | @crowded resolved due found full =>
    obtain ⟨u, there, noted⟩ := renoted
      (queuedStatus now (.atCapacity resolved.agent (aheadIn b.store now resolved.agent t))) stored rfl
    have waits := noted.phase rfl
    have still : u.phase ≠ .running := by
      rw [waits]
      decide
    have gate := Gate.crowded (r := r) (noted.due rfl due) (noted.resolves.trans found)
      (by rw [noted.capacity idle still, noted.ahead]; exact full)
    rw [noted.ahead, noted.queued] at gate
    exact ⟨u, there, .inr waits, noted.stop, _, gate⟩
  | @overQuota resolved _ due found room spent =>
    obtain ⟨u, there, noted⟩ := renoted
      (queuedStatus now (.overQuota resolved.agent (aheadIn b.store now resolved.agent t))) stored rfl
    have waits := noted.phase rfl
    have still : u.phase ≠ .running := by
      rw [waits]
      decide
    -- The task itself may be among the starts by now, which leaves no more of them.
    have gate := Gate.overQuota (r := r) (noted.due rfl due) (noted.resolves.trans found)
      (by rw [noted.capacity idle still, noted.ahead]; exact room)
      (by rw [noted.ahead]; exact noted.quotaSpent (fun _ => noted.startsQueued) spent) rfl
    rw [noted.ahead, noted.queued] at gate
    exact ⟨u, there, .inr waits, noted.stop, _, gate⟩
  | @refused resolved cause due found room allowance blank why =>
    obtain ⟨u, there, noted⟩ := renoted (blockedStatus now t.phase (.workloadRefused cause)) stored clearedStore
    have waits : u.phase = .pending ∨ u.phase = .queued := by rwa [noted.phase rfl]
    have still : u.phase ≠ .running := by rwa [noted.phase rfl]
    have gate := Gate.refused (r := r) (noted.due rfl due) (noted.resolves.trans found)
      (by rw [noted.capacity idle still, noted.ahead]; exact room)
      (by rw [noted.ahead, noted.quotaSame noted.startsBlocked]; exact allowance) blank why
    rw [noted.cleared Backend.notedWorkloads, noted.blocked] at gate
    exact ⟨u, there, waits, noted.stop, _, gate⟩
  | started => exact absurd (Backend.startedPhase stored _) still

end Reconcile

def Backend.Waiting (b : Backend) (key : Key) : Prop :=
  b.phase? key = some .pending ∨ b.phase? key = some .queued

theorem Backend.Waiting.stored {b : Backend} {key : Key} (waits : b.Waiting key) :
    ∃ t, b.store.get? .task key = some t ∧ (t.phase = .pending ∨ t.phase = .queued) := by
  rcases waits with waits | waits <;> obtain ⟨t, stored, phase⟩ := Option.map_eq_some_iff.mp waits
  · exact ⟨t, stored, .inl phase⟩
  · exact ⟨t, stored, .inr phase⟩

/-- A task that waits before a reconcile and after it is left as it is by another one at the same
instant, and so is all else: the store with its versions and events, and the workloads. -/
theorem settledRests {r : Reconciler} {now : Instant} {b : Backend} {key : Key} (waits : b.Waiting key)
    (still : ((r.reconcile now key).run now b).2.Waiting key) :
    ((r.reconcile now key).run now ((r.reconcile now key).run now b).2).2 =
      ((r.reconcile now key).run now b).2 := by
  obtain ⟨t, stored, waited⟩ := waits.stored
  have own : t.key = key := b.store.tasks.keyed stored
  subst own
  obtain ⟨outcome, -, visit⟩ := reconcileVisits r now b t.key
  generalize ((r.reconcile now t.key).run now b).2 = after at still visit ⊢
  have idle : after.phase? t.key ≠ some .running := by
    rcases still with still | still <;> rw [still] <;> decide
  rcases visit.waited stored waited with ⟨-, rfl⟩ | ⟨free, gate⟩
  · have there : ((recorded? t).elim b (removed b)).store.get? .task t.key = some t := by
      cases recorded? t <;> exact stored
    have ended : (Backend.noted _ t (stoppedStatus now)).phase? t.key = some .completed :=
      Backend.notedPhase there rfl
    rcases still with still | still <;> rw [ended] at still <;> cases still
  · obtain ⟨u, found, waits, stop, _, again⟩ := gate.again stored waited idle
    obtain ⟨_, -, next⟩ := reconcileVisits r now after t.key
    exact gateSame again (next.gate found waits (stop.trans free))

theorem slotlessRests :
    let b := Backend.lone (Agent.bare ⟨"ns", "agent"⟩ (some 0)) ⟨"ns", "task"⟩
    let after := ((Reconciler.bare.reconcile default ⟨"ns", "task"⟩).run default b).2
    b.phase? ⟨"ns", "task"⟩ = some .pending ∧ after.phase? ⟨"ns", "task"⟩ = some .queued ∧
      after.store.version = b.store.version + 1 ∧
      ((Reconciler.bare.reconcile default ⟨"ns", "task"⟩).run default after).2 = after := by
  have waits : (Backend.lone (Agent.bare ⟨"ns", "agent"⟩ (some 0)) ⟨"ns", "task"⟩).phase? ⟨"ns", "task"⟩ =
      some .pending := by
    decide +kernel
  have still : ((Reconciler.bare.reconcile default ⟨"ns", "task"⟩).run default
      (Backend.lone (Agent.bare ⟨"ns", "agent"⟩ (some 0)) ⟨"ns", "task"⟩)).2.phase? ⟨"ns", "task"⟩ =
      some .queued := by
    decide +kernel
  exact ⟨waits, still, by decide +kernel, settledRests (.inl waits) (.inr still)⟩

end Turnstile
