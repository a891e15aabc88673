import Turnstile.Proofs.Reconcile.Settle
/-! What one atomic reconcile may do: a list of cases with all their conditions,
so that nothing later has to look at the procedure again. -/
namespace Turnstile

namespace Phase

theorem activeMayEnd {p : Phase} (active : p.isTerminal = false) :
    p.canBecome .completed = true ∧ p.canBecome .failed = true := by
  cases p <;> simp_all [isTerminal, canBecome]

theorem waitingMayMove {p : Phase} (active : p.isTerminal = false) (idle : p ≠ .running) :
    p.canBecome p = true ∧ p.canBecome .queued = true ∧ p.canBecome .running = true := by
  cases p <;> simp_all [isTerminal, canBecome]

end Phase

namespace Reconcile

def clearedFor (b : Backend) (task : Task) : Backend :=
  if 0 < task.status.attempts then removed b (workloadKey task task.status.attempts) else b

def nextRun (task : Task) (resolved : Resolved) : WorkloadSpec :=
  ⟨workloadKey task (task.status.attempts + 1), task.key, resolved.spec, resolved.agent,
    task.status.attempts + 1⟩

def BackingOff (now : Instant) (task : Task) (retryAt : Instant) : Prop :=
  task.status.retryAfter = some retryAt ∧ now < retryAt

def Due (now : Instant) (task : Task) : Prop :=
  ∀ retryAt, task.status.retryAfter = some retryAt → ¬ now < retryAt

inductive Gate (r : Reconciler) (now : Instant) (b : Backend) (task : Task) :
    ReconcileOutcome → Backend → Prop where
  | backingOff {retryAt} (early : BackingOff now task retryAt) :
      Gate r now b task (.requeueAfter (until_ now retryAt)) b
  | blocked {cause} (due : Due now task) (unresolved : resolveIn b.store task = .error cause) :
      Gate r now b task (.requeueAfter r.timing.blocked)
        (b.noted task (blockedStatus now task.phase cause))
  | crowded {resolved} (due : Due now task) (found : resolveIn b.store task = .ok resolved)
      (full : (capacityIn b.store resolved.agent).exceeds (aheadIn b.store now resolved.agent task) = false) :
      Gate r now b task (.requeueAfter (floored r.timing.queued))
        (b.noted task (queuedStatus now
          (.atCapacity resolved.agent (aheadIn b.store now resolved.agent task))))
  | overQuota {resolved delay} (due : Due now task) (found : resolveIn b.store task = .ok resolved)
      (room : (capacityIn b.store resolved.agent).exceeds (aheadIn b.store now resolved.agent task) = true)
      (spent : (quotaIn b.store now resolved.agent).remaining.exceeds
        (aheadIn b.store now resolved.agent task) = false)
      (wait : delay = ((quotaIn b.store now resolved.agent).nextExpiry.map (until_ now)).getD
        r.timing.queued) :
      Gate r now b task (.requeueAfter (floored delay))
        (b.noted task (queuedStatus now
          (.overQuota resolved.agent (aheadIn b.store now resolved.agent task))))
  | refused {resolved cause} (due : Due now task) (found : resolveIn b.store task = .ok resolved)
      (room : (capacityIn b.store resolved.agent).exceeds (aheadIn b.store now resolved.agent task) = true)
      (allowance : (quotaIn b.store now resolved.agent).remaining.exceeds
        (aheadIn b.store now resolved.agent task) = true)
      (blank : Text.isAllBlank resolved.agent.spec.image = true)
      (why : cause = "agent " ++ resolved.agent.metadata.name ++ " has no image") :
      Gate r now b task (.requeueAfter r.timing.blocked)
        ((clearedFor b task).noted task (blockedStatus now task.phase (.workloadRefused cause)))
  | started {resolved} (due : Due now task) (found : resolveIn b.store task = .ok resolved)
      (room : (capacityIn b.store resolved.agent).exceeds (aheadIn b.store now resolved.agent task) = true)
      (allowance : (quotaIn b.store now resolved.agent).remaining.exceeds
        (aheadIn b.store now resolved.agent task) = true)
      (image : Text.isAllBlank resolved.agent.spec.image = false) :
      Gate r now b task (.requeueAfter r.timing.running)
        ((created now (clearedFor b task) (nextRun task resolved)).noted task
          (runningStatus now (nextRun task resolved)))

def policyOf (r : Reconciler) (task : Task) : RetryPolicy :=
  task.spec.retryPolicy.getD r.retryPolicy

inductive Look (r : Reconciler) (now : Instant) (b : Backend) (task : Task) :
    ReconcileOutcome → Backend → Prop where
  | unrecorded (nothing : recorded? task = none) :
      Look r now b task .done
        (b.noted task (failedStatus now .unknown none "no workload recorded for running task"))
  | vanished {run} (recorded : recorded? task = some run)
      (absent : (b.workloads.status now run).1 = none) :
      Look r now b task .done ((polled now b run).noted task
        (failedStatus now (Termination.classify none) none "workload disappeared"))
  | running {run observed} (recorded : recorded? task = some run)
      (found : (b.workloads.status now run).1 = some observed) (live : observed.state.isLive = true) :
      Look r now b task (.requeueAfter r.timing.running) (polled now b run)
  | succeeded {run observed} (recorded : recorded? task = some run)
      (found : (b.workloads.status now run).1 = some observed) (ended : observed.state = .succeeded) :
      Look r now b task .done ((polled now b run).noted task
        (completedStatus now (withDefaults observed.outputs (declaredIn b.store task))))
  | retried {run observed delay} (recorded : recorded? task = some run)
      (found : (b.workloads.status now run).1 = some observed) (ended : observed.state = .failed)
      (again : (policyOf r task).decide (Termination.classify observed.container)
        task.status.attempts = .retryIn delay) :
      Look r now b task (.requeueAfter (floored delay))
        (removed ((polled now b run).noted task (retryStatus now (now.after delay)
          (retryMessage (policyOf r task) task.status.attempts
            (Termination.classify observed.container) delay))) run)
  | failed {run observed} (recorded : recorded? task = some run)
      (found : (b.workloads.status now run).1 = some observed) (ended : observed.state = .failed)
      (enough : (policyOf r task).decide (Termination.classify observed.container)
        task.status.attempts = .giveUp) :
      Look r now b task .done ((polled now b run).noted task
        (failedStatus now (Termination.classify observed.container) observed.container
          ((observed.container.bind (·.message)).getD
            ("workload failed (" ++ (Termination.classify observed.container).text ++ ")"))))

inductive Visit (r : Reconciler) (now : Instant) (b : Backend) (key : Key) :
    ReconcileOutcome → Backend → Prop where
  | gone (absent : b.store.get? .task key = none) : Visit r now b key .done b
  | ended {task : Task} (stored : b.store.get? .task key = some task)
      (terminal : task.phase.isTerminal = true) : Visit r now b key .done b
  | stopped {task : Task} (stored : b.store.get? .task key = some task)
      (active : task.phase.isTerminal = false) (asked : task.stopRequested = true) :
      Visit r now b key .done
        (((recorded? task).elim b (removed b)).noted task (stoppedStatus now))
  | observed {task : Task} {outcome after} (stored : b.store.get? .task key = some task)
      (free : task.stopRequested = false) (running : task.phase = .running)
      (look : Look r now b task outcome after) : Visit r now b key outcome after
  | considered {task : Task} {outcome after} (stored : b.store.get? .task key = some task)
      (free : task.stopRequested = false) (active : task.phase.isTerminal = false)
      (idle : task.phase ≠ .running) (gate : Gate r now b task outcome after) :
      Visit r now b key outcome after

def launch (r : Reconciler) (now : Instant) (task : Task) (resolved : Resolved) :
    Step ReconcileOutcome := do
  match ← ExceptT.lift (Procedure.ask (.createWorkload (nextRun task resolved))) with
  | .error (.rejected cause) => block r now task (.workloadRefused cause)
  | .error e => throw (.workload e)
  | .ok () =>
    writeStatus task (runningStatus now (nextRun task resolved))
    pure (.requeueAfter r.timing.running)

section
variable {r : Reconciler} {now : Instant} {b : Backend} {task : Task}

@[simp] theorem clearedStore : (clearedFor b task).store = b.store := by
  unfold clearedFor
  split <;> rfl

theorem startLaunches (resolved : Resolved) :
    start r now task resolved =
      if 0 < task.status.attempts then
        ofWorkload (Procedure.ask (.deleteWorkload (workloadKey task task.status.attempts))) >>=
          fun _ => launch r now task resolved
      else launch r now task resolved := by
  unfold start launch
  dsimp only
  split
  · congr 1
    funext _
    congr 1
    funext reply
    rcases reply with (cause | cause) | _ <;> rfl
  · congr 1
    funext reply
    rcases reply with (cause | cause) | _ <;> rfl

theorem settleStart (resolved : Resolved) :
    settle now b (start r now task resolved) =
      settle now (clearedFor b task) (launch r now task resolved) := by
  rw [startLaunches]
  unfold clearedFor
  split
  · exact settleBind _ (settleDeleteWorkload _)
  · rfl

theorem settleLaunch {resolved : Resolved} (stored : b.store.get? .task task.key = some task)
    (active : task.phase.isTerminal = false) (idle : task.phase ≠ .running) :
    settle now b (launch r now task resolved) =
      if Text.isAllBlank resolved.agent.spec.image then
        (.ok (.requeueAfter r.timing.blocked), b.noted task (blockedStatus now task.phase
          (.workloadRefused ("agent " ++ resolved.agent.metadata.name ++ " has no image"))))
      else
        (.ok (.requeueAfter r.timing.running),
          (created now b (nextRun task resolved)).noted task
            (runningStatus now (nextRun task resolved))) := by
  obtain ⟨mayStay, -, mayRun⟩ := Phase.waitingMayMove active idle
  unfold launch
  rw [settleBind _ (settleCreateWorkload _)]
  unfold created Workloads.create
  by_cases blank : Text.isAllBlank resolved.agent.spec.image = true
  · have agent : (nextRun task resolved).agent = resolved.agent := rfl
    simp only [agent, blank, if_true]
    exact settleBind _ (settleWrite _ stored mayStay)
  · have agent : (nextRun task resolved).agent = resolved.agent := rfl
    simp only [agent, blank]
    by_cases there : b.workloads.records.contains (nextRun task resolved).key = true
    · simp only [there]
      exact settleBind _ (settleWrite _ stored mayRun)
    · simp only [there]
      exact settleBind _ (settleWrite _ stored mayRun)

theorem settleConsider (stored : b.store.get? .task task.key = some task)
    (active : task.phase.isTerminal = false) (idle : task.phase ≠ .running) :
    ∃ outcome after, settle now b (consider r now task) = (.ok outcome, after) ∧
      Gate r now b task outcome after := by
  obtain ⟨mayStay, mayWait, -⟩ := Phase.waitingMayMove active idle
  unfold consider
  split
  · rename_i retryAt waits
    obtain ⟨set, early⟩ := Option.filter_eq_some_iff.mp waits
    exact ⟨_, _, rfl, .backingOff ⟨set, of_decide_eq_true early⟩⟩
  · rename_i nothing
    have due : Due now task := by
      intro retryAt set early
      rw [set] at nothing
      simp [Option.filter, early] at nothing
    rw [settleBind _ (settleResolve task)]
    cases found : resolveIn b.store task with
    | error cause => exact ⟨_, _, settleBind _ (settleWrite _ stored mayStay), .blocked due found⟩
    | ok resolved =>
      dsimp only
      rw [settleBind _ (settleListTasks _), settleBind _ (settleCapacity _)]
      cases room : (capacityIn b.store resolved.agent).exceeds
          (aheadIn b.store now resolved.agent task) with
      | false =>
        refine ⟨_, _, ?_, .crowded due found room⟩
        unfold aheadIn at room
        simp only [room, Bool.not_false, if_true]
        exact settleBind _ (settleWrite _ stored mayWait)
      | true =>
        unfold aheadIn at room
        simp only [room, Bool.not_true, Bool.false_eq_true, if_false]
        rw [settleBind _ (settleQuota _)]
        cases allowance : (quotaIn b.store now resolved.agent).remaining.exceeds
            (aheadIn b.store now resolved.agent task) with
        | false =>
          refine ⟨_, _, ?_, .overQuota due found room allowance rfl⟩
          unfold aheadIn at allowance
          simp only [allowance, Bool.not_false, if_true]
          exact settleBind _ (settleWrite _ stored mayWait)
        | true =>
          have cleared : (clearedFor b task).store.get? .task task.key = some task := by
            rw [clearedStore]; exact stored
          unfold aheadIn at allowance
          simp only [allowance, Bool.not_true, Bool.false_eq_true, if_false]
          rw [settleStart, settleLaunch cleared active idle]
          split
          · rename_i blank
            exact ⟨_, _, rfl, .refused due found room allowance blank rfl⟩
          · rename_i image
            exact ⟨_, _, rfl, .started due found room allowance (by simpa using image)⟩

theorem settleFail {reason container message} (stored : b.store.get? .task task.key = some task)
    (active : task.phase.isTerminal = false) :
    settle now b (fail now task reason container message) =
      (.ok .done, b.noted task (failedStatus now reason container message)) :=
  settleBind _ (settleWrite _ stored (Phase.activeMayEnd active).2)

theorem settleHandleFailure {run container} (stored : b.store.get? .task task.key = some task)
    (running : task.phase = .running) :
    settle now b (handleFailure r now task run container) =
      match (policyOf r task).decide (Termination.classify container) task.status.attempts with
      | .retryIn delay =>
        (.ok (.requeueAfter (floored delay)),
          removed (b.noted task (retryStatus now (now.after delay)
            (retryMessage (policyOf r task) task.status.attempts
              (Termination.classify container) delay))) run)
      | .giveUp =>
        (.ok .done, b.noted task (failedStatus now (Termination.classify container) container
          ((container.bind (·.message)).getD
            ("workload failed (" ++ (Termination.classify container).text ++ ")")))) := by
  unfold handleFailure policyOf
  dsimp only
  cases (task.spec.retryPolicy.getD r.retryPolicy).decide (Termination.classify container)
      task.status.attempts with
  | retryIn delay =>
    have may : task.phase.canBecome .queued = true := by rw [running]; rfl
    have written : settle now b (writeStatus task (retryStatus now (now.after delay)
        (retryMessage (task.spec.retryPolicy.getD r.retryPolicy) task.status.attempts
          (Termination.classify container) delay))) = _ := settleWrite _ stored may
    dsimp only
    rw [settleBind _ written, settleBind _ (settleLiftDelete run)]
    rfl
  | giveUp => exact settleFail stored (by rw [running]; rfl)

theorem settleObserve (stored : b.store.get? .task task.key = some task)
    (running : task.phase = .running) :
    ∃ outcome after, settle now b (observe r now task) = (.ok outcome, after) ∧
      Look r now b task outcome after := by
  have active : task.phase.isTerminal = false := by rw [running]; rfl
  unfold observe
  cases recorded : recorded? task with
  | none => exact ⟨_, _, settleFail stored active, .unrecorded recorded⟩
  | some run =>
    have still : (polled now b run).store.get? .task task.key = some task := stored
    dsimp only
    rw [settleBind _ (settleWorkloadStatus run)]
    cases found : (b.workloads.status now run).1 with
    | none => exact ⟨_, _, settleFail still active, .vanished recorded found⟩
    | some observed =>
      dsimp only
      cases state : observed.state with
      | pending => exact ⟨_, _, rfl, .running recorded found (by rw [state]; rfl)⟩
      | running => exact ⟨_, _, rfl, .running recorded found (by rw [state]; rfl)⟩
      | succeeded =>
        refine ⟨_, _, ?_, .succeeded recorded found state⟩
        dsimp only
        rw [settleBind _ (settleDeclared task)]
        exact settleBind _ (settleWrite _ still (Phase.activeMayEnd active).1)
      | failed =>
        dsimp only
        rw [settleHandleFailure still running]
        cases next : (policyOf r task).decide (Termination.classify observed.container)
            task.status.attempts with
        | retryIn delay => exact ⟨_, _, rfl, .retried recorded found state next⟩
        | giveUp => exact ⟨_, _, rfl, .failed recorded found state next⟩

theorem settleStop (stored : b.store.get? .task task.key = some task)
    (active : task.phase.isTerminal = false) :
    settle now b (stop now task) =
      (.ok .done, ((recorded? task).elim b (removed b)).noted task (stoppedStatus now)) := by
  have may := (Phase.activeMayEnd active).1
  unfold stop
  cases recorded? task with
  | none => exact settleBind _ (settleWrite _ stored may)
  | some run =>
    dsimp only
    rw [settleBind _ (settleDeleteWorkload run)]
    exact settleBind _ (settleWrite (b := removed b run) _ stored may)

end

section
variable {r : Reconciler} {now : Instant} {b after : Backend} {key : Key} {task : Task}
  {outcome : ReconcileOutcome}

theorem Visit.waited (visit : Visit r now b key outcome after) (stored : b.store.get? .task key = some task)
    (waits : task.phase = .pending ∨ task.phase = .queued) :
    (task.stopRequested = true ∧
      after = ((recorded? task).elim b (removed b)).noted task (stoppedStatus now)) ∨
    (task.stopRequested = false ∧ Gate r now b task outcome after) := by
  have only {other : Task} (there : b.store.get? .task key = some other) : other = task := by
    rw [stored] at there
    exact (Option.some.inj there).symm
  cases visit with
  | gone absent => rw [stored] at absent; cases absent
  | ended there terminal =>
    cases only there
    rcases waits with waits | waits <;> rw [waits] at terminal <;> cases terminal
  | stopped there active asked =>
    cases only there
    exact .inl ⟨asked, rfl⟩
  | observed there unasked running =>
    cases only there
    rcases waits with waits | waits <;> rw [waits] at running <;> cases running
  | considered there unasked active idle gate =>
    cases only there
    exact .inr ⟨unasked, gate⟩

theorem Visit.gate (visit : Visit r now b key outcome after) (stored : b.store.get? .task key = some task)
    (waits : task.phase = .pending ∨ task.phase = .queued) (free : task.stopRequested = false) :
    Gate r now b task outcome after := by
  rcases visit.waited stored waits with ⟨asked, -⟩ | ⟨-, gate⟩
  · rw [free] at asked
    cases asked
  · exact gate

theorem Visit.look (visit : Visit r now b key outcome after) (stored : b.store.get? .task key = some task)
    (running : task.phase = .running) (free : task.stopRequested = false) : Look r now b task outcome after := by
  have only {other : Task} (there : b.store.get? .task key = some other) : other = task :=
    Option.some.inj (there.symm.trans stored)
  cases visit with
  | gone absent => rw [stored] at absent; cases absent
  | ended there terminal =>
    cases only there
    rw [running] at terminal
    cases terminal
  | stopped there _ asked =>
    cases only there
    rw [free] at asked
    cases asked
  | observed there _ _ look =>
    cases only there
    exact look
  | considered there _ _ idle =>
    cases only there
    exact absurd running idle

end

theorem reconcileVisits (r : Reconciler) (now : Instant) (b : Backend) (key : Key) :
    ∃ outcome, ((r.reconcile now key).run now b).1 = .ok outcome ∧
      Visit r now b key outcome ((r.reconcile now key).run now b).2 := by
  have shown : ∃ outcome after, settle now b (step r now key) = (.ok outcome, after) ∧
      Visit r now b key outcome after := by
    unfold step
    rw [settleBind _ (settleGet _ _)]
    cases stored : b.store.get? .task key with
    | none => exact ⟨_, _, rfl, .gone stored⟩
    | some task =>
      have same : task.key = key := b.store.tasks.keyed stored
      have own : b.store.get? .task task.key = some task := by rw [same]; exact stored
      dsimp only
      split
      · rename_i terminal
        exact ⟨_, _, rfl, .ended stored terminal⟩
      · rename_i active
        have active : task.phase.isTerminal = false := by simpa using active
        split
        · rename_i asked
          exact ⟨_, _, settleStop own active, .stopped stored active asked⟩
        · rename_i free
          have free : task.stopRequested = false := by simpa using free
          split
          · rename_i running
            have running : task.phase = .running := by simpa using running
            obtain ⟨outcome, after, settled, look⟩ := settleObserve own running
            exact ⟨outcome, after, settled, .observed stored free running look⟩
          · rename_i idle
            have idle : task.phase ≠ .running := by simpa using idle
            obtain ⟨outcome, after, settled, gate⟩ := settleConsider own active idle
            exact ⟨outcome, after, settled, .considered stored free active idle gate⟩
  obtain ⟨outcome, after, settled, visit⟩ := shown
  have result : (r.reconcile now key).run now b = (.ok outcome, after) := settled
  rw [result]
  exact ⟨outcome, rfl, visit⟩

end Reconcile
end Turnstile
