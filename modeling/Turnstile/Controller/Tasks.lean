import Turnstile.Queue.Basic
import Turnstile.Reconcile.Basic
/-! The loop that keeps tasks moving. Changes in the store put the keys of tasks
into the work queue: a changed task itself, the queued tasks of an agent that a
task leaves, and every unfinished task of an agent that changed. -/
namespace Turnstile

structure TaskController where
  queue : WorkQueue Key
  tasksSeen : Nat
  agentsSeen : Nat
  resyncAt : Duration
  deriving DecidableEq, Repr

namespace TaskController

def errorDelay : Duration := .ofSeconds 5

def keysOf (tasks : List Task) : List Key := tasks.map Task.key

def countedAgainst (agent : Key) : Procedure (List Task) := do
  match ← Procedure.ask (.list .task .all) with
  | .ok tasks => pure (Admission.countedAgainst agent tasks)
  | .error _ => pure []

def queuedPeers (t : Task) : Procedure (List Key) :=
  match t.agentKey? with
  | none => pure []
  | some agent => do
    let tasks ← countedAgainst agent
    pure (keysOf (tasks.filter fun p => p.phase == .queued))

def frees : Event .task → Bool
  | .applied t => t.phase.isTerminal
  | .deleted t => t.isActive

/-- The key that comes into the queue before any other is looked up. -/
def wokenAtOnce : Event .task → List Key
  | .applied t => [t.key]
  | .deleted _ => []

def wokenPeers (e : Event .task) : Procedure (List Key) :=
  if frees e then queuedPeers e.object else pure []

def wokenByTask (e : Event .task) : Procedure (List Key) := do
  let peers ← wokenPeers e
  pure (wokenAtOnce e ++ peers)

def wokenByAgent (e : Event .agent) : Procedure (List Key) := do
  let tasks ← countedAgainst e.key
  pure (keysOf (tasks.filter Task.isActive))

def unfinished : Procedure (List Key) := do
  match ← Procedure.ask (.list .task .all) with
  | .ok tasks => pure (keysOf (tasks.filter Task.isActive))
  | .error _ => pure []

def wokenByTasks : Notice .task → Procedure (List Key)
  | .event e => wokenByTask e
  | .lagged => unfinished

def wokenByAgents : Notice .agent → Procedure (List Key)
  | .event e => wokenByAgent e
  | .lagged => unfinished

def requeue (now : Duration) (key : Key) (result : Except ReconcileError ReconcileOutcome)
    (queue : WorkQueue Key) : WorkQueue Key :=
  match result with
  | .ok .done => queue
  | .ok (.requeueAfter delay) => queue.addAfter now key delay
  | .error _ => queue.addAfter now key errorDelay

def settle (now : Duration) (key : Key) (result : Except ReconcileError ReconcileOutcome)
    (queue : WorkQueue Key) : WorkQueue Key :=
  (requeue now key result queue).release key

end TaskController
end Turnstile
