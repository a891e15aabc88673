import Turnstile.Object.Metadata
/-! Where a task stands: its phase, its conditions, and what the reconciler
wrote about its runs. -/
namespace Turnstile

inductive Phase where
  | pending | queued | running | completed | failed
  deriving DecidableEq, Repr

namespace Phase

def isTerminal : Phase → Bool
  | completed | failed => true
  | _ => false

def canBecome (phase next : Phase) : Bool :=
  phase == next ||
    match phase, next with
    | pending, queued | pending, running | pending, completed | pending, failed => true
    | queued, running | queued, completed | queued, failed => true
    | running, queued | running, completed | running, failed => true
    | _, _ => false

def text : Phase → String
  | pending => "Pending"
  | queued => "Queued"
  | running => "Running"
  | completed => "Completed"
  | failed => "Failed"

def all : List Phase := [pending, queued, running, completed, failed]

end Phase

inductive ConditionStatus where
  | true | false | unknown
  deriving DecidableEq, Repr

def ConditionStatus.text : ConditionStatus → String
  | .true => "True"
  | .false => "False"
  | .unknown => "Unknown"

structure Condition where
  type : String
  status : ConditionStatus
  reason : String
  message : String
  lastTransitionTime : Instant
  deriving DecidableEq, Repr

namespace Condition

def ready : String := "Ready"
def queued : String := "Queued"
def stopped : String := "Stopped"

end Condition

inductive TerminalReason where
  | infrastructureError | agentExitNonZero | unknown
  deriving DecidableEq, Repr

namespace TerminalReason

def isRetryable : TerminalReason → Bool
  | infrastructureError => true
  | _ => false

def text : TerminalReason → String
  | infrastructureError => "InfrastructureError"
  | agentExitNonZero => "AgentExitNonZero"
  | unknown => "Unknown"

def all : List TerminalReason := [infrastructureError, agentExitNonZero, unknown]

end TerminalReason

structure TaskStatus where
  phase : Option Phase
  agent : Option Key
  workloadName : Option String
  workloadNamespace : Option String
  startTime : Option Instant
  completionTime : Option Instant
  outputs : TextMap
  conditions : List Condition
  observedGeneration : UInt64
  attempts : UInt32
  retryAfter : Option Instant
  terminalReason : Option TerminalReason
  exitCode : Option Int32
  deriving DecidableEq, Repr

namespace TaskStatus

def fresh : TaskStatus where
  phase := none
  agent := none
  workloadName := none
  workloadNamespace := none
  startTime := none
  completionTime := none
  outputs := .empty
  conditions := []
  observedGeneration := 0
  attempts := 0
  retryAfter := none
  terminalReason := none
  exitCode := none

instance : Inhabited TaskStatus := ⟨fresh⟩

def condition? (s : TaskStatus) (type : String) : Option Condition :=
  s.conditions.find? (·.type == type)

def replaceCondition (c : Condition) : List Condition → List Condition
  | [] => [c]
  | old :: rest =>
    if old.type == c.type then
      (if old.status == c.status then { c with lastTransitionTime := old.lastTransitionTime } else c)
        :: rest
    else old :: replaceCondition c rest

def setCondition (s : TaskStatus) (c : Condition) : TaskStatus :=
  { s with conditions := replaceCondition c s.conditions }

def removeCondition (s : TaskStatus) (type : String) : TaskStatus :=
  { s with conditions := s.conditions.filter (·.type != type) }

end TaskStatus

namespace Wire

instance : Wire Phase where
  toJson p := .string p.text
  ofJson? := ofName? (Phase.all.map fun p => (p.text, p))

instance : Wire ConditionStatus where
  toJson s := .string s.text
  ofJson? := ofName? ([.true, .false, .unknown].map fun s : ConditionStatus => (s.text, s))

instance : Wire TerminalReason where
  toJson r := .string r.text
  ofJson? := ofName? (TerminalReason.all.map fun r => (r.text, r))

instance : Wire Condition where
  toJson c := .object
    (Json.member "last_transition_time" c.lastTransitionTime
      ++ Json.member "message" c.message
      ++ Json.member "reason" c.reason
      ++ Json.member "status" c.status
      ++ Json.member "type" c.type)
  ofJson? j := do
    let r ← j.record? 5
    some {
      type := ← r.required 0 "type"
      status := ← r.required 1 "status"
      reason := ← r.required 2 "reason"
      message := ← r.defaulted 3 "message" ""
      lastTransitionTime := ← r.required 4 "last_transition_time" }

instance : Wire TaskStatus where
  toJson s := .object
    (Json.memberIfSome "agent" s.agent
      ++ Json.member "attempts" s.attempts
      ++ Json.memberIfSome "completion_time" s.completionTime
      ++ Json.memberUnlessEmpty "conditions" s.conditions
      ++ Json.memberIfSome "exit_code" s.exitCode
      ++ Json.member "observed_generation" s.observedGeneration
      ++ Json.memberIfAny "outputs" s.outputs
      ++ Json.memberIfSome "phase" s.phase
      ++ Json.memberIfSome "retry_after" s.retryAfter
      ++ Json.memberIfSome "start_time" s.startTime
      ++ Json.memberIfSome "terminal_reason" s.terminalReason
      ++ Json.memberIfSome "workload_name" s.workloadName
      ++ Json.memberIfSome "workload_namespace" s.workloadNamespace)
  ofJson? j := do
    let r ← j.record? 13
    some {
      phase := ← r.optional 0 "phase"
      agent := ← r.optional 1 "agent"
      workloadName := ← r.optional 2 "workload_name"
      workloadNamespace := ← r.optional 3 "workload_namespace"
      startTime := ← r.optional 4 "start_time"
      completionTime := ← r.optional 5 "completion_time"
      outputs := ← r.defaulted 6 "outputs" SortedMap.empty
      conditions := ← r.defaulted 7 "conditions" []
      observedGeneration := ← r.defaulted 8 "observed_generation" 0
      attempts := ← r.defaulted 9 "attempts" 0
      retryAfter := ← r.optional 10 "retry_after"
      terminalReason := ← r.optional 11 "terminal_reason"
      exitCode := ← r.optional 12 "exit_code" }

end Wire
end Turnstile
