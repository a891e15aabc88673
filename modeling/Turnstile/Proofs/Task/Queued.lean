import Turnstile.Proofs.Reconcile.Rounds
import Turnstile.Proofs.Task.Conditions
import Turnstile.Proofs.Task.History
/-! The queued condition. It is set where a task comes into the line and taken back by its start, so it tells
the phase; but a stop leaves it as it is, and a task that was stopped in line says ever after that it is queued. -/
namespace Turnstile
open Reconcile

namespace TaskStatus

def SaysQueued (s : TaskStatus) : Prop := ∃ c, s.condition? Condition.queued = some c ∧ c.status = .true

/-- It was stopped after it came into the line, with no workload made for it. -/
structure StoppedInLine (s : TaskStatus) : Prop where
  phase : s.phase = some .completed
  stopped : ∃ c, s.condition? Condition.stopped = some c ∧ c.status = .true
  agent : s.agent.isSome
  workload : s.workloadName = none

def QueuedTold (s : TaskStatus) : Prop := s.SaysQueued ↔ s.phase = some .queued ∨ s.StoppedInLine

variable {s : TaskStatus} {now : Instant}

theorem saysOther {c : Condition} (other : c.type ≠ Condition.queued) :
    (s.setCondition c).SaysQueued ↔ s.SaysQueued := by
  unfold SaysQueued
  rw [conditionOther s other.symm]

theorem QueuedTold.silent (quiet : ¬ s.SaysQueued) (left : s.phase ≠ some .queued) (other : ¬ s.StoppedInLine) :
    s.QueuedTold :=
  iff_of_false quiet (not_or.mpr ⟨left, other⟩)

theorem freshTold : fresh.QueuedTold := by
  refine .silent ?_ nofun fun stopped => nomatch stopped.phase
  rintro ⟨c, found, -⟩
  cases found

section Written

theorem readyApart : Condition.ready ≠ Condition.queued := by decide

theorem blockedSays {phase : Phase} {cause : Block} : (blockedStatus now phase cause s).SaysQueued ↔ s.SaysQueued :=
  saysOther readyApart

theorem queuedSays (wait : Wait) : (queuedStatus now wait s).SaysQueued := by
  obtain ⟨⟨time, shown⟩, -⟩ := queuedShows now s wait
  exact ⟨_, shown, rfl⟩

theorem runningSays (spec : WorkloadSpec) : ¬ (runningStatus now spec s).SaysQueued := by
  intro queued
  obtain ⟨c, found, -⟩ := (saysOther readyApart).mp queued
  rw [conditionRemoved] at found
  cases found

theorem completedSays {outputs : TextMap} : (completedStatus now outputs s).SaysQueued ↔ s.SaysQueued :=
  saysOther readyApart

theorem retrySays (retryAt : Instant) (message : String) : (retryStatus now retryAt message s).SaysQueued := by
  refine (saysOther readyApart).mpr ?_
  obtain ⟨time, set⟩ := conditionSet { s with
    phase := some .queued
    retryAfter := some retryAt
    workloadName := none
    workloadNamespace := none } (mark now Condition.queued .true "RetryBackoff" message)
  exact ⟨_, set, rfl⟩

theorem failedSays {reason : TerminalReason} {container : Option Termination} {message : String} :
    (failedStatus now reason container message s).SaysQueued ↔ s.SaysQueued :=
  saysOther readyApart

theorem stoppedSays : (stoppedStatus now s).SaysQueued ↔ s.SaysQueued := by
  have apart : Condition.stopped ≠ Condition.queued := by decide
  exact (saysOther readyApart).trans (saysOther apart)

theorem stoppedShown (now : Instant) (s : TaskStatus) :
    ∃ c, (stoppedStatus now s).condition? Condition.stopped = some c ∧ c.status = .true := by
  have apart : Condition.stopped ≠ Condition.ready := by decide
  obtain ⟨time, set⟩ := conditionSet { s with
    phase := some .completed
    completionTime := some now
    retryAfter := none } (mark now Condition.stopped .true "UserStopped" stopMessage)
  exact ⟨_, (conditionOther _ apart).trans set, rfl⟩

end Written
end TaskStatus
open TaskStatus

section
variable {r : Reconciler} {now : Instant} {b : Backend} {t : Task} {key : Key} {w : Workloads}
  {change : TaskStatus → TaskStatus}

theorem Task.queuedIff : t.phase = .queued ↔ t.status.phase = some .queued := by
  unfold phase
  cases t.status.phase <;> simp

theorem Task.goingOn (active : t.phase.isTerminal = false) : ¬ t.status.StoppedInLine := by
  intro stopped
  rw [phase, stopped.phase] at active
  cases active

theorem TaskStatus.QueuedTold.ofActive (told : t.status.QueuedTold) (active : t.phase.isTerminal = false) :
    t.status.SaysQueued ↔ t.phase = .queued :=
  told.trans ((or_iff_left (Task.goingOn active)).trans Task.queuedIff.symm)

theorem TaskStatus.QueuedTold.ofRunning (told : t.status.QueuedTold) (running : t.phase = .running) :
    ¬ t.status.SaysQueued := by
  rw [told.ofActive (by rw [running]; rfl), running]
  decide

theorem Task.blockedGoesOn {cause : Block} (active : t.phase.isTerminal = false) :
    ¬ (t.changed (blockedStatus now t.phase cause)).StoppedInLine := by
  intro stopped
  have completed : t.phase = .completed := Option.some.inj stopped.phase
  rw [completed] at active
  cases active

theorem Coherent.runs (coherent : Coherent key t.status) (running : t.phase = .running) :
    t.status.workloadName ≠ none := by
  rw [(coherent.underway running).workload]
  exact Option.some_ne_none _

theorem Coherent.stoppedInLine (coherent : Coherent key t.status) (active : t.phase.isTerminal = false) :
    (t.changed (stoppedStatus now)).StoppedInLine ↔ t.phase = .queued := by
  cases phase : t.phase with
  | pending =>
    refine iff_of_false (fun stopped => ?_) nofun
    have agent : t.status.agent.isSome = true := stopped.agent
    rw [(coherent.untouched phase).agent] at agent
    cases agent
  | queued =>
    have shape := coherent.inLine phase
    exact iff_of_true ⟨rfl, stoppedShown now t.status, shape.agent, shape.workload⟩ rfl
  | running => exact iff_of_false (fun stopped => coherent.runs phase stopped.workload) nofun
  | completed | failed =>
    rw [phase] at active
    cases active

theorem Reconcile.Change.stoppedInLine (write : Change r now b t change w) (coherent : Coherent t.key t.status)
    (stopped : (t.changed change).StoppedInLine) : t.phase = .queued ∧ t.stopRequested = true := by
  cases write with
  | blocked active => exact absurd stopped (Task.blockedGoesOn active)
  | queued | started | retried | failed => cases stopped.phase
  | completed running => exact absurd stopped.workload (coherent.runs running)
  | stopped active asked => exact ⟨(coherent.stoppedInLine active).mp stopped, asked⟩

theorem Reconcile.Change.queuedTold (write : Change r now b t change w) (coherent : Coherent t.key t.status)
    (told : t.status.QueuedTold) : (t.changed change).QueuedTold := by
  cases write with
  | blocked active =>
    have phase : some t.phase = some .queued ↔ t.phase = .queued := Option.some_inj
    exact blockedSays.trans ((told.ofActive active).trans
      (phase.symm.trans (or_iff_left (Task.blockedGoesOn active)).symm))
  | @queued _ _ wait => exact iff_of_true (queuedSays wait) (.inl rfl)
  | started => exact .silent (runningSays _) nofun fun stopped => nomatch stopped.phase
  | completed running =>
    exact .silent (mt completedSays.mp (told.ofRunning running)) nofun fun stopped =>
      coherent.runs running stopped.workload
  | @retried _ _ delay message => exact iff_of_true (retrySays (now.after delay) message) (.inl rfl)
  | failed running =>
    exact .silent (mt failedSays.mp (told.ofRunning running)) nofun fun stopped => nomatch stopped.phase
  -- the condition stays as it was, so it is true now if the task was queued, which is what the fields tell
  | stopped active =>
    have ended : ¬ (t.changed (stoppedStatus now)).phase = some .queued := nofun
    exact stoppedSays.trans ((told.ofActive active).trans
      ((coherent.stoppedInLine active).symm.trans (or_iff_right ended).symm))

end

namespace Backend
variable {b : Backend} {key : Key} {t : Task}

def Statuses (holds : TaskStatus → Prop) (b : Backend) : Prop :=
  ∀ key t, b.store.get? .task key = some t → holds t.status

section
variable {holds : TaskStatus → Prop}

theorem Statuses.perform {c : Call} {now : Instant} (fresh : holds .fresh) (leaves : c.LeavesStatus)
    (all : b.Statuses holds) : (b.perform now c).2.Statuses holds := by
  intro key t stored
  rcases performLeaves leaves stored with ⟨-, new⟩ | ⟨old, there, same⟩
  · rw [new]
    exact fresh
  · rw [same]
    exact all key old there

theorem Statuses.run {α : Type} {p : Procedure α} {now : Instant} (fresh : holds .fresh)
    (only : p.Only Call.LeavesStatus) (all : b.Statuses holds) : (p.run now b).2.Statuses holds :=
  only.runKeeps (fun _ _ leaves before => Statuses.perform fresh leaves before) all

/-- What holds of the fresh status, and goes on to hold where a reconcile writes one over a coherent status,
holds of every status that is ever stored. -/
theorem Reachable.statuses (past : Reachable b) (fresh : holds .fresh)
    (kept : ∀ {r now b t change w}, Change r now b t change w → Turnstile.Coherent t.key t.status →
      holds t.status → holds (t.changed change)) : b.Statuses holds := by
  induction past with
  | start empty =>
    intro key t stored
    rw [empty] at stored
    cases stored
  | @move b after past next ih =>
    cases next with
    | written now c leaves => exact ih.perform fresh leaves
    | finished | evicted => exact ih
    | delivered => exact ih.run fresh (Webhook.handleLeavesStatus _ _ _ _ _ _)
    | synced => exact ih.run fresh (TriggerController.syncLeavesStatus _ _ _)
    | resynced => exact ih.run fresh (TriggerController.resyncLeavesStatus _ _)
    | reconciled r now visited =>
      intro key t stored
      obtain ⟨old, there, rfl | ⟨rfl, version, change, write, rfl⟩⟩ :=
        (reconcileChanged r now b visited).origin stored
      · exact ih key t there
      · have own : old.key = key := b.store.tasks.keyed there
        subst own
        exact kept write (reachableCoherent past _ old there) (ih _ old there)

end

theorem Reachable.run {α : Type} {p : Procedure α} (past : Reachable b) (only : p.Only Call.LeavesStatus)
    (now : Instant) : Reachable (p.run now b).2 :=
  only.runKeeps (fun c before leaves reached => reached.move (.written before now c leaves)) past

theorem loneReachable (agent : Agent) (task : Key) : Reachable (lone agent task) :=
  .move (.move (.start rfl) (.written _ default (.create .agent agent) trivial))
    (.written _ default (.create .task (Task.bare task agent.metadata.name)) rfl)

/-- A stored task has the queued condition, and it is true, exactly if the task is queued or was stopped while
it was; and one gets to be stopped so by the reconcile that stops a queued task, and by no other. -/
theorem queuedMirrored (past : Reachable b) (stored : b.store.get? .task key = some t) :
    (t.status.SaysQueued ↔ t.phase = .queued ∨ t.status.StoppedInLine) ∧
    ∀ (r : Reconciler) (now : Instant), ∃ u, ((r.reconcile now key).run now b).2.store.get? .task key = some u ∧
      (u.status.StoppedInLine ↔
        t.status.StoppedInLine ∨ (t.phase = .queued ∧ t.stopRequested = true)) := by
  have told : t.status.QueuedTold := past.statuses freshTold (fun write => write.queuedTold) key t stored
  have own : t.key = key := b.store.tasks.keyed stored
  subst own
  have coherent : Turnstile.Coherent t.key t.status := reachableCoherent past _ t stored
  refine ⟨told.trans (or_congr_left Task.queuedIff.symm), fun r now => ?_⟩
  by_cases stops : t.phase = .queued ∧ t.stopRequested = true
  · obtain ⟨queued, asked⟩ := stops
    obtain ⟨outcome, -, visit⟩ := reconcileVisits r now b t.key
    rcases visit.waited stored (.inr queued) with ⟨-, after⟩ | ⟨free, -⟩
    · have there : ((recorded? t).elim b (removed b)).store.get? .task t.key = some t := by
        cases recorded? t <;> exact stored
      obtain ⟨version, written, -⟩ := notedCount (stoppedStatus now) there
      rw [after]
      refine ⟨_, written, iff_of_true ?_ (.inr ⟨queued, asked⟩)⟩
      exact (coherent.stoppedInLine (by rw [queued]; rfl)).mpr queued
    · rw [asked] at free
      cases free
  · rw [or_iff_left stops]
    rcases (reconcileChanged r now b t.key).found stored with ⟨same, -⟩ | ⟨version, change, write, written⟩
    · exact ⟨t, same, .rfl⟩
    · refine ⟨_, written, iff_of_false (fun stopped => stops (write.stoppedInLine coherent stopped)) ?_⟩
      exact Task.goingOn write.active

def slotless : Backend :=
  ((Reconciler.bare.reconcile default ⟨"ns", "task"⟩).run default
    (lone (Agent.bare ⟨"ns", "agent"⟩ (some 0)) ⟨"ns", "task"⟩)).2

theorem slotlessReachable : Reachable slotless := (loneReachable _ _).move (.reconciled _ .bare default ⟨"ns", "task"⟩)

theorem slotlessSays : ∃ t, slotless.store.get? .task ⟨"ns", "task"⟩ = some t ∧ t.phase = .queued ∧
    t.status.SaysQueued := by
  have phase : (slotless.store.get? .task ⟨"ns", "task"⟩).map Task.phase = some .queued := by decide +kernel
  obtain ⟨t, stored, queued⟩ := Option.map_eq_some_iff.mp phase
  exact ⟨t, stored, queued, (queuedMirrored slotlessReachable stored).1.mpr (.inl queued)⟩

def slotlessStopped : Backend :=
  ((Reconciler.bare.reconcile default ⟨"ns", "task"⟩).run default
    ((Task.requestStop ⟨"ns", "task"⟩).run default slotless).2).2

theorem stoppedSaysQueued : ¬ ∀ (b : Backend) (key : Key) (t : Task), b.Reachable →
    b.store.get? .task key = some t → (t.status.SaysQueued ↔ t.phase = .queued) := by
  intro claim
  have facts : (slotlessStopped.store.get? .task ⟨"ns", "task"⟩).map (fun t =>
      (t.phase, (t.status.condition? Condition.queued).map Condition.status)) = some (.completed, some .true) := by
    decide +kernel
  obtain ⟨t, stored, facts⟩ := Option.map_eq_some_iff.mp facts
  obtain ⟨completed, shown⟩ := Prod.mk.inj facts
  obtain ⟨c, found, true_⟩ := Option.map_eq_some_iff.mp shown
  have asked : Reachable ((Task.requestStop ⟨"ns", "task"⟩).run default slotless).2 :=
    slotlessReachable.run ((Task.stopClerical _ _).imp fun _ => Call.Clerical.leaves) default
  have past : slotlessStopped.Reachable := asked.move (.reconciled _ .bare default ⟨"ns", "task"⟩)
  have queued := (claim _ _ t past stored).mp ⟨c, found, true_⟩
  rw [completed] at queued
  cases queued

end Backend
end Turnstile
