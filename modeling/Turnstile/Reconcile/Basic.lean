import Turnstile.Reconcile.Status
import Turnstile.Admission
import Turnstile.Config
import Turnstile.Procedure
/-! Reconciling a task: it is read afresh, moves by at most one step, and the
outcome says when to look again. A failing store or backend is never the
task's failure. -/
namespace Turnstile

inductive ReconcileOutcome where
  | done
  | requeueAfter (delay : Duration)
  deriving DecidableEq, Repr

inductive ReconcileError where
  | store (cause : StoreError)
  | workload (cause : WorkloadError)
  | invalidTransition (task : Key) (phase next : Phase)
  deriving DecidableEq, Repr

def ReconcileError.message : ReconcileError → String
  | store cause => cause.message
  | workload cause => cause.message
  | invalidTransition task phase next =>
    "task " ++ task.text ++ ": refusing phase transition " ++ phase.text ++ " -> " ++ next.text

structure Reconciler where
  retryPolicy : RetryPolicy
  timing : ReconcileTiming
  deriving DecidableEq, Repr

def Config.timing (c : Config) : ReconcileTiming where
  queued := .ofSeconds c.controller.queuedRequeueSecs.toNat
  blocked := .ofSeconds c.controller.blockedRequeueSecs.toNat
  running := .ofSeconds c.controller.runningPollSecs.toNat

def Config.reconciler (c : Config) : Reconciler := ⟨c.retry, c.timing⟩

namespace Reconcile

abbrev Step := ExceptT ReconcileError Procedure

def ofStore {α : Type} (p : Procedure (Except StoreError α)) : Step α :=
  ExceptT.mk (p >>= fun r => pure (r.mapError .store))

def ofWorkload {α : Type} (p : Procedure (Except WorkloadError α)) : Step α :=
  ExceptT.mk (p >>= fun r => pure (r.mapError .workload))

def get (k : Kind) (key : Key) : Step (Option k.Object) := ofStore (Procedure.ask (.get k key))

def listTasks (agent : Key) : Step (List Task) := do
  let tasks ← ofStore (Procedure.ask (.list .task .all))
  pure (Admission.countedAgainst agent tasks)

def minRequeue : Duration := .ofSeconds 1

def floored (d : Duration) : Duration := d.max minRequeue

def until_ (now at_ : Instant) : Duration := floored ⟨(at_.since now).toNat⟩

def writeStatus (task : Task) (change : TaskStatus → TaskStatus) : Step Unit := do
  let next : TaskStatus :=
    { change task.status with observedGeneration := task.metadata.generation }
  let phase := next.phase.getD .pending
  if !task.phase.canBecome phase then throw (.invalidTransition task.key task.phase phase)
  else if next == task.status then pure ()
  else do
    let _ ← ofStore (Procedure.ask (.updateStatus .task { task with status := next }))
    pure ()

def block (r : Reconciler) (now : Instant) (task : Task) (b : Block) : Step ReconcileOutcome := do
  writeStatus task (blockedStatus now task.phase b)
  pure (.requeueAfter r.timing.blocked)

def enqueue (now : Instant) (task : Task) (w : Wait) (delay : Duration) : Step ReconcileOutcome := do
  writeStatus task (queuedStatus now w)
  pure (.requeueAfter (floored delay))

structure Resolved where
  agent : Agent
  spec : TaskSpec
  deriving DecidableEq, Repr

def effectiveSpec (task : Task) : Step (Except Block TaskSpec) :=
  match task.spec.templateRef with
  | none => pure (.ok task.spec)
  | some ref => do
    let key := ref.resolve task.metadata.ns
    match ← get .template key with
    | some template => pure (.ok (template.spec.mergeInto task.spec))
    | none => pure (.error (.templateNotFound key))

def resolve (task : Task) : Step (Except Block Resolved) := do
  match ← effectiveSpec task with
  | .error b => pure (.error b)
  | .ok spec =>
    match spec.agentRef with
    | none => pure (.error .agentNotSpecified)
    | some ref => do
      let key := ref.resolve task.metadata.ns
      match ← get .agent key with
      | none => pure (.error (.agentNotFound key))
      | some agent =>
        if agent.allowsNamespace task.metadata.ns then pure (.ok ⟨agent, spec⟩)
        else pure (.error (.namespaceNotAllowed key task.metadata.ns))

def capacity (agent : Agent) : Step Headroom :=
  match agent.spec.maxConcurrentTasks with
  | none => pure .unlimited
  | some _ => do
    let tasks ← listTasks agent.key
    pure (Admission.remainingCapacity agent tasks)

def quota (agent : Agent) (now : Instant) : Step Admission.QuotaCheck :=
  match agent.spec.quota with
  | none => pure .unlimited
  | some quota => do
    let tasks ← listTasks agent.key
    pure (Admission.checkQuota agent.key quota tasks now)

def workloadKey (task : Task) (attempt : UInt32) : Key :=
  ⟨task.metadata.ns, WorkloadSpec.nameFor task.key attempt⟩

/-- The workload is made before the status says that it runs. -/
def start (r : Reconciler) (now : Instant) (task : Task) (resolved : Resolved) : Step ReconcileOutcome := do
  let attempts := task.status.attempts
  if 0 < attempts then
    ofWorkload (Procedure.ask (.deleteWorkload (workloadKey task attempts)))
  let spec : WorkloadSpec :=
    ⟨workloadKey task (attempts + 1), task.key, resolved.spec, resolved.agent, attempts + 1⟩
  match ← ExceptT.lift (Procedure.ask (.createWorkload spec)) with
  | .error (.rejected cause) => block r now task (.workloadRefused cause)
  | .error e => throw (.workload e)
  | .ok () =>
    writeStatus task (runningStatus now spec)
    pure (.requeueAfter r.timing.running)

/-- The gates to a start, in order: no backoff, a resolved agent that accepts
the task, a free slot and a free start beyond those of older tasks. -/
def consider (r : Reconciler) (now : Instant) (task : Task) : Step ReconcileOutcome := do
  match task.status.retryAfter.filter fun t => decide (now < t) with
  | some retryAt => pure (.requeueAfter (until_ now retryAt))
  | none =>
    match ← resolve task with
    | .error b => block r now task b
    | .ok resolved =>
      let peers ← listTasks resolved.agent.key
      let ahead := Admission.queuedAhead now task peers
      let slots ← capacity resolved.agent
      if !slots.exceeds ahead then
        enqueue now task (.atCapacity resolved.agent ahead) r.timing.queued
      else
        let check ← quota resolved.agent now
        if !check.remaining.exceeds ahead then
          enqueue now task (.overQuota resolved.agent ahead)
            ((check.nextExpiry.map (until_ now)).getD r.timing.queued)
        else start r now task resolved

def fail (now : Instant) (task : Task) (reason : TerminalReason) (container : Option Termination)
    (message : String) : Step ReconcileOutcome := do
  writeStatus task (failedStatus now reason container message)
  pure .done

def recorded? (task : Task) : Option Key :=
  task.status.workloadName.map fun name => ⟨task.status.workloadNamespace.getD task.metadata.ns, name⟩

def declaredOutputs (task : Task) : Step (List OutputSpec) :=
  match task.spec.templateRef with
  | none => pure task.spec.outputs
  | some ref => do
    match ← get .template (ref.resolve task.metadata.ns) with
    | some template => pure (template.spec.mergeInto task.spec).outputs
    | none => pure task.spec.outputs

/-- The status says `queued` before the workload goes, so that a failure in
between is seen again; a workload that stays is removed by the next start. -/
def handleFailure (r : Reconciler) (now : Instant) (task : Task) (workload : Key)
    (container : Option Termination) : Step ReconcileOutcome := do
  let reason := Termination.classify container
  let policy := task.spec.retryPolicy.getD r.retryPolicy
  let attempts := task.status.attempts
  match policy.decide reason attempts with
  | .retryIn delay =>
    writeStatus task
      (retryStatus now (now.after delay) (retryMessage policy attempts reason delay))
    let _ ← ExceptT.lift (Procedure.ask (.deleteWorkload workload))
    pure (.requeueAfter (floored delay))
  | .giveUp =>
    fail now task reason container
      ((container.bind (·.message)).getD ("workload failed (" ++ reason.text ++ ")"))

def observe (r : Reconciler) (now : Instant) (task : Task) : Step ReconcileOutcome := do
  match recorded? task with
  | none => fail now task .unknown none "no workload recorded for running task"
  | some workload =>
    match ← ofWorkload (Procedure.ask (.workloadStatus workload)) with
    | none => fail now task (Termination.classify none) none "workload disappeared"
    | some observed =>
      match observed.state with
      | .pending | .running => pure (.requeueAfter r.timing.running)
      | .succeeded => do
        let declared ← declaredOutputs task
        writeStatus task (completedStatus now (withDefaults observed.outputs declared))
        pure .done
      | .failed => handleFailure r now task workload observed.container

def stop (now : Instant) (task : Task) : Step ReconcileOutcome := do
  match recorded? task with
  | some workload => ofWorkload (Procedure.ask (.deleteWorkload workload))
  | none => pure ()
  writeStatus task (stoppedStatus now)
  pure .done

def step (r : Reconciler) (now : Instant) (key : Key) : Step ReconcileOutcome := do
  match ← get .task key with
  | none => pure .done
  | some task =>
    if task.phase.isTerminal then pure .done
    else if task.stopRequested then stop now task
    else if task.phase == .running then observe r now task
    else consider r now task

end Reconcile

def Reconciler.reconcile (r : Reconciler) (now : Instant) (key : Key) :
    Procedure (Except ReconcileError ReconcileOutcome) :=
  (Reconcile.step r now key).run

end Turnstile
