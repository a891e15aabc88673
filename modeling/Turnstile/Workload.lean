import Turnstile.Task.Basic
import Turnstile.Agent
import Turnstile.Text.Blank
/-! Workloads: one run of a task's agent each, kept in memory. -/
namespace Turnstile

structure WorkloadSpec where
  key : Key
  task : Key
  taskSpec : TaskSpec
  agent : Agent
  attempt : UInt32
  deriving DecidableEq, Repr

def WorkloadSpec.nameFor (task : Key) (attempt : UInt32) : String :=
  task.name ++ "-" ++ toString attempt.toNat

inductive WorkloadState where
  | pending | running | succeeded | failed
  deriving DecidableEq, Repr

namespace WorkloadState

def isLive : WorkloadState → Bool
  | pending | running => true
  | _ => false

def text : WorkloadState → String
  | pending => "Pending"
  | running => "Running"
  | succeeded => "Succeeded"
  | failed => "Failed"

end WorkloadState

structure Termination where
  exitCode : Int32
  reason : String
  message : Option String
  deriving DecidableEq, Repr

namespace Termination

def classify : Option Termination → TerminalReason
  | none => .unknown
  | some t =>
    if t.reason.isEmpty && t.exitCode == 0 then .unknown
    else if t.reason == "OOMKilled" then .infrastructureError
    else if t.exitCode != 0 && t.reason == "Error" then .agentExitNonZero
    else .unknown

end Termination

structure WorkloadStatus where
  state : WorkloadState
  container : Option Termination
  outputs : TextMap
  deriving DecidableEq, Repr

inductive WorkloadError where
  | rejected (cause : String)
  | unavailable (cause : String)
  deriving DecidableEq, Repr

def WorkloadError.message : WorkloadError → String
  | rejected cause => "workload rejected: " ++ cause
  | unavailable cause => "workload backend unavailable: " ++ cause

structure Workload where
  spec : WorkloadSpec
  started : Instant
  status : WorkloadStatus
  deriving DecidableEq, Repr

structure Workloads where
  records : SortedMap Key Workload
  simulatedRuntime : Option Duration
  deriving DecidableEq, Repr

namespace Workloads

def empty : Workloads := ⟨.empty, none⟩

instance : Inhabited Workloads := ⟨empty⟩

def create (w : Workloads) (now : Instant) (spec : WorkloadSpec) : Except WorkloadError Unit × Workloads :=
  if Text.isAllBlank spec.agent.spec.image then
    (.error (.rejected ("agent " ++ spec.agent.metadata.name ++ " has no image")), w)
  else if w.records.contains spec.key then (.ok (), w)
  else (.ok (), { w with records := w.records.insert spec.key ⟨spec, now, ⟨.running, none, .empty⟩⟩ })

def simulatedSuccess : WorkloadStatus := ⟨.succeeded, some ⟨0, "Completed", none⟩, .empty⟩

/-- Looking at a workload whose simulated runtime is over ends it. -/
def status (w : Workloads) (now : Instant) (key : Key) : Option WorkloadStatus × Workloads :=
  match w.records.get? key with
  | none => (none, w)
  | some record =>
    let isOver := record.status.state == .running &&
      w.simulatedRuntime.any fun runtime => (runtime.nanoseconds : Int) ≤ now.since record.started
    if isOver then
      (some simulatedSuccess,
        { w with records := w.records.insert key { record with status := simulatedSuccess } })
    else (some record.status, w)

def delete (w : Workloads) (key : Key) : Workloads := { w with records := w.records.erase key }

def finish (w : Workloads) (key : Key) (status : WorkloadStatus) : Bool × Workloads :=
  match w.records.get? key with
  | none => (false, w)
  | some record => (true, { w with records := w.records.insert key { record with status := status } })

def evict (w : Workloads) (key : Key) : Bool × Workloads := (w.records.contains key, w.delete key)

def running (w : Workloads) : List Key :=
  (w.records.entries.filter fun e => e.2.status.state.isLive).map (·.1)

def size (w : Workloads) : Nat := w.records.size

end Workloads
end Turnstile
