import Turnstile.Task.Stop
/-! Concurrency policies: what the active tasks of a trigger, or of one of its
rules, mean for a new one. -/
namespace Turnstile.Webhook

def triggerLabel : String := "taskgate.io/webhook-trigger"
def ruleLabel : String := "taskgate.io/webhook-rule"

def scope (ns trigger : String) (rule : Option String) : Selector :=
  let labels : TextMap := SortedMap.empty.insert triggerLabel trigger
  ⟨some ns, match rule with
    | some rule => labels.insert ruleLabel rule
    | none => labels⟩

def activeTasks (ns trigger : String) (rule : Option String) :
    Procedure (Except StoreError (List Task)) := do
  match ← Procedure.ask (.list .task (scope ns trigger rule)) with
  | .ok tasks => pure (.ok (tasks.filter Task.isActive))
  | .error e => pure (.error e)

def stopAll : List Task → Procedure Unit
  | [] => pure ()
  | task :: rest => do
    let _ ← Task.requestStop task.key
    stopAll rest

def enforce (policy : ConcurrencyPolicy) (ns trigger : String) (rule : Option String) :
    Procedure (Except StoreError Bool) :=
  match policy with
  | .allow => pure (.ok true)
  | .forbid => do
    match ← activeTasks ns trigger rule with
    | .ok active => pure (.ok active.isEmpty)
    | .error e => pure (.error e)
  | .replace => do
    match ← activeTasks ns trigger rule with
    | .ok active =>
      stopAll active
      pure (.ok true)
    | .error e => pure (.error e)

end Turnstile.Webhook
