import Turnstile.Webhook.Concurrency
import Turnstile.Webhook.Path
import Turnstile.Webhook.Registry
/-! The loop that serves the stored triggers: it registers them, publishes their
URLs, and drops finished tasks from their lists. -/
namespace Turnstile

structure TriggerController where
  triggersSeen : Nat
  tasksSeen : Nat
  resyncAt : Duration
  deriving DecidableEq, Repr

namespace TriggerController
open Webhook

def owner? (t : Task) : Option Key :=
  (t.metadata.labels.get? triggerLabel).map fun name => ⟨t.metadata.ns, name⟩

def activeNames (tasks : List Task) : List String :=
  (tasks.filter Task.isActive).map (·.metadata.name)

def desiredStatus (s : TriggerStatus) (url : String) (active : List String) : TriggerStatus :=
  { s with
    webhookUrl := some url
    activeTasks := s.activeTasks.filter active.contains
    ruleStatuses := s.ruleStatuses.map fun r =>
      { r with activeResources := r.activeResources.filter active.contains } }

def syncStatus (base : String) (trigger : WebhookTrigger) : Procedure (Except StoreError Unit) := do
  let key := trigger.key
  match ← Procedure.ask (.list .task (scope key.ns key.name none)) with
  | .error e => pure (.error e)
  | .ok tasks =>
    let desired := desiredStatus trigger.status (url base key) (activeNames tasks)
    if desired = trigger.status then pure (.ok ())
    else
      match ← Procedure.ask (.updateStatus .trigger { trigger with status := desired }) with
      | .error e => pure (.error e)
      | .ok _ => pure (.ok ())

/-- Serves a trigger as it is stored. What fails is left to the next change. -/
def sync (base : String) (registry : Registry) (key : Key) : Procedure Registry := do
  match ← Procedure.ask (.get .trigger key) with
  | .error _ => pure registry
  | .ok none => pure (registry.unregister key).2
  | .ok (some trigger) =>
    match registry.register trigger with
    | (.error _, registry) => pure registry
    | (.ok (), registry) => do
      let _ ← syncStatus base trigger
      pure registry

def syncAll (base : String) (registry : Registry) : List Key → Procedure Registry
  | [] => pure registry
  | key :: rest => do
    let registry ← sync base registry key
    syncAll base registry rest

def resync (base : String) (registry : Registry) : Procedure Registry := do
  match ← Procedure.ask (.list .trigger .all) with
  | .error _ => pure registry
  | .ok stored =>
    let keys := stored.map WebhookTrigger.key
    syncAll base (registry.retain keys) keys

def onTrigger (base : String) (registry : Registry) : Notice .trigger → Procedure Registry
  | .event (.applied t) => sync base registry t.key
  | .event (.deleted t) => pure (registry.unregister t.key).2
  | .lagged => resync base registry

def onTask (base : String) (registry : Registry) : Notice .task → Procedure Registry
  | .event e =>
    match owner? e.object with
    | some key => sync base registry key
    | none => pure registry
  | .lagged => resync base registry

end TriggerController
end Turnstile
