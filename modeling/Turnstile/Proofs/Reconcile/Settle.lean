import Turnstile.Proofs.Reconcile.Noted
/-! Atomic runs of the reconciler's steps. Each step gives a value that is read
off the backend, or writes a status, and ends without an error. -/
namespace Turnstile

namespace Reconcile

def created (now : Instant) (b : Backend) (spec : WorkloadSpec) : Backend :=
  { b with workloads := (b.workloads.create now spec).2 }

def polled (now : Instant) (b : Backend) (key : Key) : Backend :=
  { b with workloads := (b.workloads.status now key).2 }

def removed (b : Backend) (key : Key) : Backend :=
  { b with workloads := b.workloads.delete key }

def settle {α : Type} (now : Instant) (b : Backend) (p : Step α) :
    Except ReconcileError α × Backend :=
  Procedure.run p.run now b

section
variable {α β : Type} {now : Instant} {b b' : Backend}

@[simp] theorem settlePure (a : α) : settle now b (pure a) = (.ok a, b) := rfl

theorem settleBind {p : Step α} {a : α} (f : α → Step β) (first : settle now b p = (.ok a, b')) :
    settle now b (p >>= f) = settle now b' (f a) := by
  have unfolded : settle now b (p >>= f) =
      (ExceptT.bindCont f (settle now b p).1).runWith (Backend.perform now) (settle now b p).2 :=
    Procedure.runBind _ _ _ _
  rw [unfolded, first]
  rfl

@[simp] theorem settleGet (k : Kind) (key : Key) :
    settle now b (get k key) = (.ok (b.store.get? k key), b) := rfl

@[simp] theorem settleListTasks (agent : Key) :
    settle now b (listTasks agent) = (.ok (Admission.countedAgainst agent (b.store.list .task .all)), b) :=
  rfl

@[simp] theorem settleDeleteWorkload (key : Key) :
    settle now b (ofWorkload (Procedure.ask (.deleteWorkload key))) =
      (.ok (), removed b key) := rfl

@[simp] theorem settleWorkloadStatus (key : Key) :
    settle now b (ofWorkload (Procedure.ask (.workloadStatus key))) =
      (.ok (b.workloads.status now key).1, polled now b key) := rfl

@[simp] theorem settleLiftDelete (key : Key) :
    settle now b (ExceptT.lift (Procedure.ask (.deleteWorkload key))) =
      (.ok (.ok ()), removed b key) := rfl

@[simp] theorem settleCreateWorkload (spec : WorkloadSpec) :
    settle now b (ExceptT.lift (Procedure.ask (.createWorkload spec))) =
      (.ok (b.workloads.create now spec).1, created now b spec) := rfl

theorem settleWrite {task : Task} (change : TaskStatus → TaskStatus)
    (stored : b.store.get? .task task.key = some task)
    (may : task.phase.canBecome ((task.changed change).phase.getD .pending) = true) :
    settle now b (writeStatus task change) = (.ok (), b.noted task change) := by
  have unfolded : writeStatus task change =
      (if !task.phase.canBecome ((task.changed change).phase.getD .pending) then
        throw (.invalidTransition task.key task.phase ((task.changed change).phase.getD .pending))
      else if task.changed change == task.status then pure ()
      else do
        let _ ← ofStore (Procedure.ask
          (.updateStatus .task { task with status := task.changed change }))
        pure ()) := rfl
  rw [unfolded, may]
  unfold Backend.noted
  by_cases same : task.changed change = task.status
  · rw [if_pos same]
    simp [same]
  · rw [if_neg same]
    simp only [Bool.not_true, Bool.false_eq_true, if_false, beq_iff_eq, same]
    have written := Collection.replaceAgreed (c := b.store.tasks)
      (o := { task with status := task.changed change }) (b.store.version + 1) 0
      Kind.task.takeStatus stored (.inr rfl)
    have reply : (b.store.updateStatus .task { task with status := task.changed change }).1 =
        .ok _ := congrArg Prod.fst written
    have asked : settle now b (ofStore
        (Procedure.ask (.updateStatus .task { task with status := task.changed change }))) =
        (Except.mapError .store (b.store.updateStatus .task { task with status := task.changed change }).1,
          { b with store := (b.store.updateStatus .task { task with status := task.changed change }).2 }) :=
      rfl
    rw [reply] at asked
    exact settleBind _ asked

end

/-! What the gates read from the store. -/

def effectiveSpecIn (s : Store) (task : Task) : Except Block TaskSpec :=
  match task.spec.templateRef with
  | none => .ok task.spec
  | some ref =>
    match s.get? .template (ref.resolve task.metadata.ns) with
    | some template => .ok (template.spec.mergeInto task.spec)
    | none => .error (.templateNotFound (ref.resolve task.metadata.ns))

def resolveIn (s : Store) (task : Task) : Except Block Resolved :=
  match effectiveSpecIn s task with
  | .error b => .error b
  | .ok spec =>
    match spec.agentRef with
    | none => .error .agentNotSpecified
    | some ref =>
      match s.get? .agent (ref.resolve task.metadata.ns) with
      | none => .error (.agentNotFound (ref.resolve task.metadata.ns))
      | some agent =>
        if agent.allowsNamespace task.metadata.ns then .ok ⟨agent, spec⟩
        else .error (.namespaceNotAllowed (ref.resolve task.metadata.ns) task.metadata.ns)

def declaredIn (s : Store) (task : Task) : List OutputSpec :=
  match task.spec.templateRef with
  | none => task.spec.outputs
  | some ref =>
    match s.get? .template (ref.resolve task.metadata.ns) with
    | some template => (template.spec.mergeInto task.spec).outputs
    | none => task.spec.outputs

def aheadIn (s : Store) (now : Instant) (agent : Agent) (task : Task) : Nat :=
  Admission.queuedAhead now task (Admission.countedAgainst agent.key (s.list .task .all))

def capacityIn (s : Store) (agent : Agent) : Headroom :=
  Admission.remainingCapacity agent (s.list .task .all)

def quotaIn (s : Store) (now : Instant) (agent : Agent) : Admission.QuotaCheck :=
  match agent.spec.quota with
  | none => .unlimited
  | some quota => Admission.checkQuota agent.key quota (s.list .task .all) now

section
variable {now : Instant} {b : Backend}

theorem settleEffectiveSpec (task : Task) :
    settle now b (effectiveSpec task) = (.ok (effectiveSpecIn b.store task), b) := by
  unfold effectiveSpec effectiveSpecIn
  cases task.spec.templateRef with
  | none => rfl
  | some ref =>
    dsimp only
    rw [settleBind _ (settleGet _ _)]
    cases b.store.get? .template (ref.resolve task.metadata.ns) <;> rfl

theorem settleDeclared (task : Task) :
    settle now b (declaredOutputs task) = (.ok (declaredIn b.store task), b) := by
  unfold declaredOutputs declaredIn
  cases task.spec.templateRef with
  | none => rfl
  | some ref =>
    dsimp only
    rw [settleBind _ (settleGet _ _)]
    cases b.store.get? .template (ref.resolve task.metadata.ns) <;> rfl

theorem settleResolve (task : Task) :
    settle now b (resolve task) = (.ok (resolveIn b.store task), b) := by
  unfold resolve resolveIn
  rw [settleBind _ (settleEffectiveSpec task)]
  cases effectiveSpecIn b.store task with
  | error block => rfl
  | ok spec =>
    dsimp only
    cases spec.agentRef with
    | none => rfl
    | some ref =>
      dsimp only
      rw [settleBind _ (settleGet _ _)]
      cases b.store.get? .agent (ref.resolve task.metadata.ns) with
      | none => rfl
      | some agent => dsimp only; split <;> rfl

theorem countedTwice (agent : Key) (tasks : List Task) :
    Admission.countedAgainst agent (Admission.countedAgainst agent tasks) =
      Admission.countedAgainst agent tasks := by
  simp [Admission.countedAgainst]

theorem settleCapacity (agent : Agent) :
    settle now b (capacity agent) = (.ok (capacityIn b.store agent), b) := by
  unfold capacity capacityIn
  split
  · rename_i unlimited
    simp [Admission.remainingCapacity, Headroom.ofUsage, unlimited]
  · rw [settleBind _ (settleListTasks _)]
    simp only [settlePure, Admission.remainingCapacity, Admission.countRunning, countedTwice]

theorem settleQuota (agent : Agent) :
    settle now b (quota agent now) = (.ok (quotaIn b.store now agent), b) := by
  unfold quota quotaIn
  cases agent.spec.quota with
  | none => rfl
  | some quota =>
    dsimp only
    rw [settleBind _ (settleListTasks _)]
    simp only [settlePure, Admission.checkQuota, Admission.startsWithin, countedTwice]

end

end Reconcile

def Reconciler.bare : Reconciler :=
  ⟨.standard, ⟨.ofSeconds 1, .ofSeconds 1, .ofSeconds 1⟩⟩

end Turnstile
