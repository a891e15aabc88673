import Turnstile.Proofs.Reconcile.Visit
import Turnstile.Proofs.Workload.Live
/-! Which status a reconcile writes, and what it leaves of the workloads. It writes one
status at most, to the task that it read, and makes a workload only where it starts it. -/
namespace Turnstile.Reconcile

/-- The changes of a status that a reconcile may write, and the workloads that it leaves,
each with what it asks of the task and of what is stored. -/
inductive Change (r : Reconciler) (now : Instant) (b : Backend) (task : Task) :
    (TaskStatus → TaskStatus) → Workloads → Prop where
  | blocked {cause w} (active : task.phase.isTerminal = false) (idle : task.phase ≠ .running)
      (within : w.Within b.workloads) : Change r now b task (blockedStatus now task.phase cause) w
  | queued {resolved w} {wait : Wait} (active : task.phase.isTerminal = false)
      (idle : task.phase ≠ .running) (found : resolveIn b.store task = .ok resolved)
      (own : wait.agent = resolved.agent) (within : w.Within b.workloads) :
      Change r now b task (queuedStatus now wait) w
  | started {resolved} (active : task.phase.isTerminal = false) (idle : task.phase ≠ .running)
      (due : Due now task) (found : resolveIn b.store task = .ok resolved)
      (allowance : (quotaIn b.store now resolved.agent).remaining.exceeds
        (aheadIn b.store now resolved.agent task) = true)
      (image : Text.isAllBlank resolved.agent.spec.image = false) :
      Change r now b task (runningStatus now (nextRun task resolved))
        ((clearedFor b task).workloads.create now (nextRun task resolved)).2
  | completed {outputs w} (running : task.phase = .running) (within : w.Within b.workloads) :
      Change r now b task (completedStatus now outputs) w
  | retried {run observed delay message w} (running : task.phase = .running)
      (recorded : recorded? task = some run)
      (found : (b.workloads.status now run).1 = some observed) (ended : observed.state = .failed)
      (again : (policyOf r task).decide (Termination.classify observed.container)
        task.status.attempts = .retryIn delay) (within : w.Within b.workloads) :
      Change r now b task (retryStatus now (now.after delay) message) w
  | failed {reason container message w} (running : task.phase = .running)
      (within : w.Within b.workloads) :
      Change r now b task (failedStatus now reason container message) w
  | stopped {w} (active : task.phase.isTerminal = false) (asked : task.stopRequested = true)
      (within : w.Within b.workloads) : Change r now b task (stoppedStatus now) w

def Changed (r : Reconciler) (now : Instant) (b : Backend) (key : Key) (after : Backend) : Prop :=
  (after.store = b.store ∧ after.workloads.Within b.workloads) ∨
    ∃ task change, b.store.get? .task key = some task ∧
      Change r now b task change after.workloads ∧ after.store = (b.noted task change).store

section
variable {r : Reconciler} {now : Instant} {b after : Backend} {key other : Key} {task : Task}
  {change : TaskStatus → TaskStatus} {outcome : ReconcileOutcome}

open Workloads

theorem Change.active {w : Workloads} (write : Change r now b task change w) : task.phase.isTerminal = false := by
  cases write with
  | blocked active | queued active | started active | stopped active => exact active
  | completed running | retried running | failed running =>
    rw [running]
    rfl

theorem Changed.written {b' : Backend} (stored : b.store.get? .task key = some task)
    (same : b'.store = b.store) (write : Change r now b task change b'.workloads) :
    Changed r now b key (b'.noted task change) := by
  refine .inr ⟨task, change, stored, ?_, Backend.notedStore same⟩
  rw [Backend.notedWorkloads]
  exact write

theorem clearedWithin : (clearedFor b task).workloads.Within b.workloads := by
  unfold clearedFor
  split
  · exact deleteWithin
  · exact withinSelf _

theorem Gate.changed (gate : Gate r now b task outcome after)
    (stored : b.store.get? .task key = some task) (active : task.phase.isTerminal = false)
    (idle : task.phase ≠ .running) : Changed r now b key after := by
  cases gate with
  | backingOff => exact .inl ⟨rfl, withinSelf _⟩
  | blocked => exact .written stored rfl (.blocked active idle (withinSelf _))
  | crowded _ found | overQuota _ found =>
    exact .written stored rfl (.queued active idle found rfl (withinSelf _))
  | refused => exact .written stored clearedStore (.blocked active idle clearedWithin)
  | started due found _ allowance image =>
    exact .written stored clearedStore (.started active idle due found allowance image)

theorem Look.changed (look : Look r now b task outcome after)
    (stored : b.store.get? .task key = some task) (running : task.phase = .running) :
    Changed r now b key after := by
  cases look with
  | running => exact .inl ⟨rfl, statusWithin⟩
  | unrecorded => exact .written stored rfl (.failed running (withinSelf _))
  | vanished | failed => exact .written stored rfl (.failed running statusWithin)
  | succeeded => exact .written stored rfl (.completed running statusWithin)
  | @retried run _ _ recorded found ended again =>
    refine .inr ⟨task, _, stored, .retried running recorded found ended again ?_, Backend.notedStore rfl⟩
    refine deleteWithin.after ?_
    rw [Backend.notedWorkloads]
    exact statusWithin

theorem Visit.changed (visit : Visit r now b key outcome after) : Changed r now b key after := by
  cases visit with
  | gone | ended => exact .inl ⟨rfl, withinSelf _⟩
  | observed stored free running look => exact look.changed stored running
  | considered stored free active idle gate => exact gate.changed stored active idle
  | @stopped task stored active asked =>
    cases recorded? task with
    | none => exact .written stored rfl (.stopped active asked (withinSelf _))
    | some run => exact .written stored rfl (.stopped active asked Workloads.deleteWithin)

theorem reconcileChanged (r : Reconciler) (now : Instant) (b : Backend) (key : Key) :
    Changed r now b key ((r.reconcile now key).run now b).2 := by
  obtain ⟨outcome, -, visit⟩ := reconcileVisits r now b key
  exact visit.changed

namespace Changed

theorem agents (changed : Changed r now b key after) : after.store.agents = b.store.agents := by
  rcases changed with ⟨same, -⟩ | ⟨task, change, -, -, same⟩
  · rw [same]
  · rw [same, Backend.notedAgents]

theorem templates (changed : Changed r now b key after) :
    after.store.templates = b.store.templates := by
  rcases changed with ⟨same, -⟩ | ⟨task, change, -, -, same⟩
  · rw [same]
  · rw [same, Backend.notedTemplates]

theorem triggers (changed : Changed r now b key after) : after.store.triggers = b.store.triggers := by
  rcases changed with ⟨same, -⟩ | ⟨task, change, -, -, same⟩
  · rw [same]
  · rw [same, Backend.notedTriggers]

theorem secrets (changed : Changed r now b key after) : after.store.secrets = b.store.secrets := by
  rcases changed with ⟨same, -⟩ | ⟨task, change, -, -, same⟩
  · rw [same]
  · rw [same, Backend.notedSecrets]

theorem others (changed : Changed r now b key after) (apart : other ≠ key) :
    after.store.get? .task other = b.store.get? .task other := by
  rcases changed with ⟨same, -⟩ | ⟨task, change, stored, -, same⟩
  · rw [same]
  · have own : task.key = key := b.store.tasks.keyed stored
    subst own
    rw [same]
    exact Backend.notedOther stored apart

theorem absent (changed : Changed r now b key after) (none : b.store.get? .task key = none) :
    after.store.get? .task key = .none := by
  rcases changed with ⟨same, -⟩ | ⟨task, change, stored, -⟩
  · rw [same]
    exact none
  · rw [none] at stored
    cases stored

theorem found (changed : Changed r now b key after) (stored : b.store.get? .task key = some task) :
    (after.store.get? .task key = some task ∧ after.workloads.Within b.workloads) ∨
    ∃ version change, Change r now b task change after.workloads ∧
      after.store.get? .task key = some (task.withStatus version (task.changed change)) := by
  rcases changed with ⟨same, within⟩ | ⟨read, change, there, write, same⟩
  · rw [same]
    exact .inl ⟨stored, within⟩
  · rw [stored] at there
    cases there
    have own : task.key = key := b.store.tasks.keyed stored
    subst own
    obtain ⟨version, written, -⟩ := Backend.notedCount change stored
    rw [← same] at written
    exact .inr ⟨version, change, write, written⟩

theorem gone (changed : Changed r now b key after) (none : after.store.get? .task other = none) :
    b.store.get? .task other = .none := by
  by_cases own : other = key
  · subst own
    cases stored : b.store.get? .task other with
    | none => rfl
    | some t =>
      rcases changed.found stored with ⟨same, -⟩ | ⟨version, change, -, same⟩ <;>
        rw [none] at same <;> cases same
  · rw [← changed.others own]
    exact none

theorem within (changed : Changed r now b key after) : after.workloads.Within b.workloads ∨
    ∃ t u, b.store.get? .task key = some t ∧ t.phase ≠ .running ∧
      after.store.get? .task key = some u ∧ u.phase = .running := by
  cases stored : b.store.get? .task key with
  | none =>
    rcases changed with ⟨-, within⟩ | ⟨task, change, there, -⟩
    · exact .inl within
    · rw [stored] at there
      cases there
  | some t =>
    rcases changed.found stored with ⟨-, within⟩ | ⟨version, change, write, written⟩
    · exact .inl within
    · generalize after.workloads = w at write
      cases write with
      | started _ idle => exact .inr ⟨t, _, rfl, idle, written, rfl⟩
      | blocked _ _ within | queued _ _ _ _ within | completed _ within | retried _ _ _ _ _ within
      | failed _ within | stopped _ _ within => exact .inl within

theorem origin {u : Task} (changed : Changed r now b key after)
    (found : after.store.get? .task other = some u) :
    ∃ t, b.store.get? .task other = some t ∧ (u = t ∨ (other = key ∧
      ∃ version change, Change r now b t change after.workloads ∧
        u = t.withStatus version (t.changed change))) := by
  by_cases own : other = key
  · subst own
    cases stored : b.store.get? .task other with
    | none =>
      rw [changed.absent stored] at found
      cases found
    | some t =>
      rcases changed.found stored with ⟨same, -⟩ | ⟨version, change, write, same⟩
      · rw [same] at found
        exact ⟨t, rfl, .inl (Option.some.inj found).symm⟩
      · rw [same] at found
        exact ⟨t, rfl, .inr ⟨rfl, version, change, write, (Option.some.inj found).symm⟩⟩
  · rw [changed.others own] at found
    exact ⟨u, found, .inl rfl⟩

end Changed
end
end Turnstile.Reconcile
