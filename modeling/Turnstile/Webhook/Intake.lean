import Turnstile.Filter.Engine
import Turnstile.Webhook.Auth
import Turnstile.Webhook.Blueprint
import Turnstile.Webhook.Concurrency
import Turnstile.Webhook.Path
import Turnstile.Webhook.Registry
/-! What becomes of a webhook request. First it is judged: its trigger is found,
it is authenticated, filtered, and every task it may make is rendered, so that
a request that fails here leaves nothing behind. Then its tasks are made one by
one, each under its concurrency policy, and the trigger's status counts them. -/
namespace Turnstile

structure WebhookRequest where
  path : String
  headers : Headers
  body : List UInt8
  deriving DecidableEq, Repr

inductive WebhookOutcome where
  | filtered
  | skipped
  | created (tasks : List Key)
  deriving DecidableEq, Repr

inductive WebhookError where
  | badPath (path : String)
  | notFound (trigger : Key)
  | unauthorized (cause : AuthError)
  | invalidJson
  | filter (cause : FilterError)
  | render (cause : Template.RenderError)
  | store (cause : StoreError)
  deriving BEq, Repr

def WebhookError.message : WebhookError → String
  | badPath path => s!"malformed webhook path '{path}', expected <namespace>/<name>"
  | notFound trigger => "no webhook trigger " ++ trigger.text
  | unauthorized cause => "authentication failed: " ++ cause.message
  | invalidJson => "invalid JSON payload"
  | filter cause => cause.message
  | render cause => "template render failed: " ++ cause.message
  | store cause => cause.message

namespace Webhook

structure Candidate where
  rule : Option String
  policy : ConcurrencyPolicy
  blueprint : TaskBlueprint
  deriving DecidableEq, Repr

structure Draft where
  rule : Option String
  policy : ConcurrencyPolicy
  labels : TextMap
  spec : TaskSpec
  deriving DecidableEq, Repr

structure Plan where
  trigger : WebhookTrigger
  drafts : List Draft
  deriving DecidableEq, Repr

def headersPayload (headers : Headers) : Json :=
  Json.ofMembers (headers.entries.map fun e => (e.1.map Char.toLower, .string e.2))

def matchingRules (spec : TriggerSpec) (body headers : Json) (engine : FilterEngine) :
    List WebhookRule → Except FilterError (List Candidate) × FilterEngine
  | [] => (.ok [], engine)
  | rule :: rest =>
    match engine.evaluate rule.filter body headers with
    | (.error e, engine) => (.error e, engine)
    | (.ok accepted, engine) =>
      match matchingRules spec body headers engine rest with
      | (.error e, engine) => (.error e, engine)
      | (.ok candidates, engine) =>
        (.ok (if accepted then
          ⟨some rule.name, rule.concurrencyPolicy.getD spec.concurrencyPolicy, rule.taskTemplate⟩
            :: candidates
        else candidates), engine)

def candidates (spec : TriggerSpec) (body headers : Json) (engine : FilterEngine) :
    Except FilterError (List Candidate) × FilterEngine :=
  match spec.taskTemplate with
  | some blueprint => (.ok [⟨none, spec.concurrencyPolicy, blueprint⟩], engine)
  | none => matchingRules spec body headers engine spec.rules

def accepted (spec : TriggerSpec) (body headers : Json) (engine : FilterEngine) :
    Except FilterError (List Candidate) × FilterEngine :=
  match engine.evaluate spec.filter body headers with
  | (.error e, engine) => (.error e, engine)
  | (.ok false, engine) => (.ok [], engine)
  | (.ok true, engine) => candidates spec body headers engine

def Candidate.draft (c : Candidate) (body : Json) : Except Template.RenderError Draft :=
  match c.blueprint.render body with
  | .error e => .error e
  | .ok spec => .ok ⟨c.rule, c.policy, c.blueprint.labels, spec⟩

def drafts (body : Json) : List Candidate → Except Template.RenderError (List Draft)
  | [] => .ok []
  | c :: rest =>
    match c.draft body with
    | .error e => .error e
    | .ok d =>
      match drafts body rest with
      | .error e => .error e
      | .ok ds => .ok (d :: ds)

def identify (sources : SecretSources) (trigger : WebhookTrigger) (r : WebhookRequest) :
    Except AuthError Unit :=
  match trigger.spec.auth with
  | none => .ok ()
  | some auth => Auth.authenticate sources trigger.metadata.ns auth r.headers r.body

def payload? (r : WebhookRequest) : Option Json := Json.readBytes? ⟨r.body.toArray⟩

def receive (registry : Registry) (sources : SecretSources) (r : WebhookRequest) :
    Except WebhookError (WebhookTrigger × Json) :=
  match keyOfPath? r.path with
  | none => .error (.badPath r.path)
  | some key =>
    match registry.get? key with
    | none => .error (.notFound key)
    | some trigger =>
      match identify sources trigger r with
      | .error e => .error (.unauthorized e)
      | .ok () =>
        match payload? r with
        | none => .error .invalidJson
        | some body => .ok (trigger, body)

def judge (registry : Registry) (sources : SecretSources) (engine : FilterEngine)
    (r : WebhookRequest) : Except WebhookError Plan × FilterEngine :=
  match receive registry sources r with
  | .error e => (.error e, engine)
  | .ok (trigger, body) =>
    match accepted trigger.spec body (headersPayload r.headers) engine with
    | (.error e, engine) => (.error (.filter e), engine)
    | (.ok candidates, engine) =>
      match drafts body candidates with
      | .error e => (.error (.render e), engine)
      | .ok drafts => (.ok ⟨trigger, drafts⟩, engine)

structure Made where
  rule : Option String
  task : Key
  deriving DecidableEq, Repr

def newTask (trigger : WebhookTrigger) (d : Draft) (name : String) : Task :=
  let labels := d.labels.insert triggerLabel trigger.metadata.name
  { metadata := { Metadata.ofKey ⟨trigger.metadata.ns, name⟩ with
      labels := match d.rule with
        | some rule => labels.insert ruleLabel rule
        | none => labels }
    spec := d.spec
    status := .fresh }

def makeTask (trigger : WebhookTrigger) (name : String) (d : Draft) :
    Procedure (Except StoreError (Option Made)) := do
  match ← enforce d.policy trigger.metadata.ns trigger.metadata.name d.rule with
  | .error e => pure (.error e)
  | .ok false => pure (.ok none)
  | .ok true =>
    match ← Procedure.ask (.create .task (newTask trigger d name)) with
    | .error e => pure (.error e)
    | .ok task => pure (.ok (some ⟨d.rule, task.key⟩))

/-- The tasks made, up to the first failure. A name is used up by the task that takes it. -/
def makeTasks (trigger : WebhookTrigger) (names : Nat → String) (made : List Made) :
    List Draft → Procedure (List Made × Option StoreError)
  | [] => pure (made, none)
  | d :: rest => do
    match ← makeTask trigger (names made.length) d with
    | .error e => pure (made, some e)
    | .ok none => makeTasks trigger names made rest
    | .ok (some m) => makeTasks trigger names (made ++ [m]) rest

def append (names : List String) (name : String) : List String :=
  if names.contains name then names else names ++ [name]

def countMade (now : Instant) (s : TriggerStatus) (m : Made) : TriggerStatus :=
  let s := { s with activeTasks := append s.activeTasks m.task.name }
  match m.rule with
  | none => s
  | some rule =>
    s.updateRule rule fun r => { r with
      lastTriggeredTime := some now
      totalTriggered := r.totalTriggered + 1
      activeResources := append r.activeResources m.task.name }

def countAll (now : Instant) (made : List Made) (s : TriggerStatus) : TriggerStatus :=
  made.foldl (countMade now) { s with
    lastTriggeredTime := some now
    totalTriggered := s.totalTriggered + UInt64.ofNat made.length }

/-- Counts the tasks in the status of their trigger. A status that cannot be
written is given up: the tasks stay. -/
def record (now : Instant) (trigger : Key) (made : List Made) : Nat → Procedure Unit
  | 0 => pure ()
  | attempts + 1 => do
    match ← Procedure.ask (.get .trigger trigger) with
    | .ok (some stored) =>
      match ← Procedure.ask
          (.updateStatus .trigger { stored with status := countAll now made stored.status }) with
      | .error e => if e.isConflict then record now trigger made attempts else pure ()
      | .ok _ => pure ()
    | .error e => if e.isConflict then record now trigger made attempts else pure ()
    | .ok none => pure ()

structure Delivery where
  made : Nat
  outcome : Except WebhookError WebhookOutcome

def Plan.carryOut (p : Plan) (names : Nat → String) (now : Instant) : Procedure Delivery := do
  if p.drafts.isEmpty then pure ⟨0, .ok .filtered⟩
  else
    let (made, failure) ← makeTasks p.trigger names [] p.drafts
    if !made.isEmpty then record now p.trigger.key made conflictAttempts
    match failure with
    | some e => pure ⟨made.length, .error (.store e)⟩
    | none =>
      pure ⟨made.length, .ok (if made.isEmpty then .skipped else .created (made.map (·.task)))⟩

def handle (registry : Registry) (sources : SecretSources) (names : Nat → String) (now : Instant)
    (engine : FilterEngine) (r : WebhookRequest) : Procedure Delivery × FilterEngine :=
  match judge registry sources engine r with
  | (.error e, engine) => (pure ⟨0, .error e⟩, engine)
  | (.ok plan, engine) => (plan.carryOut (fun i => plan.trigger.metadata.name ++ "-" ++ names i) now, engine)

end Webhook
end Turnstile
