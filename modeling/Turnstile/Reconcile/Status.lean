import Turnstile.Retry
import Turnstile.Workload
/-! The statuses that the reconciler writes. -/
namespace Turnstile.Reconcile

def mark (now : Instant) (type : String) (status : ConditionStatus) (reason message : String) : Condition :=
  ⟨type, status, reason, message, now⟩

structure Block where
  reason : String
  message : String
  deriving DecidableEq, Repr

namespace Block

def templateNotFound (key : Key) : Block :=
  ⟨"TemplateNotFound", "task template " ++ key.text ++ " not found"⟩

def agentNotSpecified : Block :=
  ⟨"AgentNotSpecified", "neither the task nor its template names an agent"⟩

def agentNotFound (key : Key) : Block := ⟨"AgentNotFound", "agent " ++ key.text ++ " not found"⟩

def namespaceNotAllowed (agent : Key) (ns : String) : Block :=
  ⟨"NamespaceNotAllowed", "agent " ++ agent.text ++ " does not accept tasks from namespace " ++ ns⟩

def workloadRefused (cause : String) : Block := ⟨"WorkloadCreateFailed", cause⟩

end Block

inductive Wait where
  | atCapacity (agent : Agent) (ahead : Nat)
  | overQuota (agent : Agent) (ahead : Nat)
  deriving DecidableEq, Repr

namespace Wait

def agent : Wait → Agent
  | atCapacity a _ | overQuota a _ => a

def reason : Wait → String
  | atCapacity .. => "AgentAtCapacity"
  | overQuota .. => "QuotaExceeded"

def message : Wait → String
  | atCapacity a ahead =>
    let limit := (a.spec.maxConcurrentTasks.getD 0).toNat
    "agent " ++ a.key.text ++ s!" has no free slot (limit {limit}, {ahead} queued ahead)"
  | overQuota a ahead => "agent " ++ a.key.text ++ s!" start quota exhausted ({ahead} queued ahead)"

end Wait

def blockedStatus (now : Instant) (phase : Phase) (b : Block) (s : TaskStatus) : TaskStatus :=
  { s with phase := some phase }.setCondition (mark now Condition.ready .false b.reason b.message)

def queuedStatus (now : Instant) (w : Wait) (s : TaskStatus) : TaskStatus :=
  ({ s with phase := some .queued, agent := some w.agent.key }.setCondition
    (mark now Condition.queued .true w.reason w.message)).setCondition
    (mark now Condition.ready .false w.reason w.message)

def runningStatus (now : Instant) (spec : WorkloadSpec) (s : TaskStatus) : TaskStatus :=
  ({ s with
    phase := some .running
    agent := some spec.agent.key
    workloadName := some spec.key.name
    workloadNamespace := some spec.key.ns
    startTime := some now
    attempts := spec.attempt
    retryAfter := none }.removeCondition Condition.queued).setCondition
    (mark now Condition.ready .true "WorkloadRunning" ("workload " ++ spec.key.text ++ " started"))

def completedStatus (now : Instant) (outputs : TextMap) (s : TaskStatus) : TaskStatus :=
  { s with
    phase := some .completed
    completionTime := some now
    outputs := outputs }.setCondition (mark now Condition.ready .false "Succeeded" "task completed")

def retryMessage (p : RetryPolicy) (attempts : UInt32) (reason : TerminalReason) (delay : Duration) : String :=
  let max := p.maxAttempts.toNat
  let count := attempts.toNat
  let wait := delay.seconds
  s!"attempt {count} of {max} failed (" ++ reason.text ++ s!"); retrying in {wait}s"

def retryStatus (now retryAt : Instant) (message : String) (s : TaskStatus) : TaskStatus :=
  ({ s with
    phase := some .queued
    retryAfter := some retryAt
    workloadName := none
    workloadNamespace := none }.setCondition
    (mark now Condition.queued .true "RetryBackoff" message)).setCondition
    (mark now Condition.ready .false "RetryBackoff" message)

def failedStatus (now : Instant) (reason : TerminalReason) (container : Option Termination)
    (message : String) (s : TaskStatus) : TaskStatus :=
  { s with
    phase := some .failed
    completionTime := some now
    terminalReason := some reason
    exitCode := container.map Termination.exitCode }.setCondition
    (mark now Condition.ready .false reason.text message)

def stopMessage : String := "stopped on request"

def stoppedStatus (now : Instant) (s : TaskStatus) : TaskStatus :=
  ({ s with
    phase := some .completed
    completionTime := some now
    retryAfter := none }.setCondition
    (mark now Condition.stopped .true "UserStopped" stopMessage)).setCondition
    (mark now Condition.ready .false "UserStopped" stopMessage)

def withDefaults (reported : TextMap) (declared : List OutputSpec) : TextMap :=
  declared.foldl (fun outputs o =>
    match o.default with
    | some value => if outputs.contains o.name then outputs else outputs.insert o.name value
    | none => outputs) reported

end Turnstile.Reconcile
