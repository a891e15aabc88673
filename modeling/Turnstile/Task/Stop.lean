import Turnstile.Procedure
/-! Stop requests. A task is marked; the reconciler does the rest. -/
namespace Turnstile

def conflictAttempts : Nat := 3

namespace Task

def markStopped (t : Task) : Task :=
  { t with metadata := { t.metadata with
    annotations := t.metadata.annotations.insert stopAnnotation "true" } }

def requestStopWithin (key : Key) : Nat → Procedure (Except StoreError Bool)
  | 0 => pure (.ok false)
  | attempts + 1 => do
    match ← Procedure.ask (.get .task key) with
    | .error e => pure (.error e)
    | .ok none => pure (.ok false)
    | .ok (some task) =>
      if !task.isActive || task.stopRequested then pure (.ok false)
      else
        match ← Procedure.ask (.update .task task.markStopped) with
        | .ok _ => pure (.ok true)
        | .error e =>
          if e.isConflict && attempts ≠ 0 then requestStopWithin key attempts
          else pure (.error e)

def requestStop (key : Key) : Procedure (Except StoreError Bool) := requestStopWithin key conflictAttempts

end Task
end Turnstile
