import Turnstile.Task.Basic
import Turnstile.Secret
import Turnstile.Text.Blank
/-! Webhook triggers: which requests create tasks, and which tasks. -/
namespace Turnstile

inductive HmacAlgorithm where
  | sha1 | sha256 | sha512
  deriving DecidableEq, Repr

inductive WebhookAuth where
  | hmac (secret : SecretRef) (header : String) (algorithm : HmacAlgorithm)
  | bearer (secret : SecretRef)
  | header (name : String) (secret : SecretRef)
  deriving DecidableEq, Repr

inductive ConcurrencyPolicy where
  | allow | forbid | replace
  deriving DecidableEq, Repr

structure TaskBlueprint where
  description : String
  agentRef : Option Reference
  contexts : List ContextItem
  outputs : List OutputSpec
  templateRef : Option Reference
  labels : TextMap
  deriving DecidableEq, Repr

structure WebhookRule where
  name : String
  filter : String
  concurrencyPolicy : Option ConcurrencyPolicy
  taskTemplate : TaskBlueprint
  deriving DecidableEq, Repr

structure TriggerSpec where
  auth : Option WebhookAuth
  filter : String
  concurrencyPolicy : ConcurrencyPolicy
  taskTemplate : Option TaskBlueprint
  rules : List WebhookRule
  deriving DecidableEq, Repr

structure RuleStatus where
  name : String
  lastTriggeredTime : Option Instant
  totalTriggered : UInt64
  activeResources : List String
  deriving DecidableEq, Repr

structure TriggerStatus where
  webhookUrl : Option String
  lastTriggeredTime : Option Instant
  totalTriggered : UInt64
  activeTasks : List String
  ruleStatuses : List RuleStatus
  deriving DecidableEq, Repr

structure WebhookTrigger where
  metadata : Metadata
  spec : TriggerSpec
  status : TriggerStatus
  deriving DecidableEq, Repr

inductive TriggerSpecError where
  | missingTemplate
  | templateAndRules
  | unnamedRule
  | duplicateRule (name : String)
  deriving DecidableEq, Repr

def TriggerSpecError.message : TriggerSpecError → String
  | missingTemplate => "trigger defines neither task_template nor rules"
  | templateAndRules => "trigger defines both task_template and rules"
  | unnamedRule => "rule name must not be empty"
  | duplicateRule name => s!"duplicate rule name '{name}'"

namespace TriggerSpec

def ruleFault? (seen : List String) : List WebhookRule → Option TriggerSpecError
  | [] => none
  | rule :: rest =>
    if Text.isAllBlank rule.name then some .unnamedRule
    else if seen.contains rule.name then some (.duplicateRule rule.name)
    else ruleFault? (rule.name :: seen) rest

def fault? (spec : TriggerSpec) : Option TriggerSpecError :=
  match spec.taskTemplate, spec.rules with
  | none, [] => some .missingTemplate
  | some _, _ :: _ => some .templateAndRules
  | _, rules => ruleFault? [] rules

def isValid (spec : TriggerSpec) : Bool := spec.fault?.isNone

end TriggerSpec

namespace TriggerStatus

def fresh : TriggerStatus := ⟨none, none, 0, [], []⟩

def updateIn (name : String) (f : RuleStatus → RuleStatus) : List RuleStatus → List RuleStatus
  | [] => [f ⟨name, none, 0, []⟩]
  | r :: rest => if r.name == name then f r :: rest else r :: updateIn name f rest

def updateRule (s : TriggerStatus) (name : String) (f : RuleStatus → RuleStatus) : TriggerStatus :=
  { s with ruleStatuses := updateIn name f s.ruleStatuses }

end TriggerStatus

def WebhookTrigger.key (t : WebhookTrigger) : Key := t.metadata.key

namespace Wire

instance : Wire HmacAlgorithm where
  toJson
    | .sha1 => .string "sha1"
    | .sha256 => .string "sha256"
    | .sha512 => .string "sha512"
  ofJson? := ofName? [("sha1", .sha1), ("sha256", .sha256), ("sha512", .sha512)]

instance : Wire ConcurrencyPolicy where
  toJson
    | .allow => .string "Allow"
    | .forbid => .string "Forbid"
    | .replace => .string "Replace"
  ofJson? := ofName? [("Allow", .allow), ("Forbid", .forbid), ("Replace", .replace)]

def defaultSignatureHeader : String := "X-Hub-Signature-256"

instance : Wire WebhookAuth where
  toJson
    | .hmac secret header algorithm => .object [("hmac", .object
        (Json.member "algorithm" algorithm ++ Json.member "header" header
          ++ Json.member "secret_ref" secret))]
    | .bearer secret => .object [("bearer", .object (Json.member "secret_ref" secret))]
    | .header name secret => .object [("header", .object
        (Json.member "name" name ++ Json.member "secret_ref" secret))]
  ofJson?
    | .object [("hmac", j)] => do
      let r ← j.record? 3
      some (.hmac (← r.required 0 "secret_ref")
        (← r.defaulted 1 "header" defaultSignatureHeader) (← r.defaulted 2 "algorithm" HmacAlgorithm.sha256))
    | .object [("bearer", j)] => do
      let r ← j.record? 1
      some (.bearer (← r.required 0 "secret_ref"))
    | .object [("header", j)] => do
      let r ← j.record? 2
      some (.header (← r.required 0 "name") (← r.required 1 "secret_ref"))
    | _ => none

instance : Wire TaskBlueprint where
  toJson b := .object
    (Json.memberIfSome "agent_ref" b.agentRef
      ++ Json.memberUnlessEmpty "contexts" b.contexts
      ++ Json.member "description" b.description
      ++ Json.memberIfAny "labels" b.labels
      ++ Json.memberUnlessEmpty "outputs" b.outputs
      ++ Json.memberIfSome "template_ref" b.templateRef)
  ofJson? j := do
    let r ← j.record? 6
    some {
      description := ← r.defaulted 0 "description" ""
      agentRef := ← r.optional 1 "agent_ref"
      contexts := ← r.defaulted 2 "contexts" []
      outputs := ← r.defaulted 3 "outputs" []
      templateRef := ← r.optional 4 "template_ref"
      labels := ← r.defaulted 5 "labels" SortedMap.empty }

instance : Wire WebhookRule where
  toJson w := .object
    (Json.memberIfSome "concurrency_policy" w.concurrencyPolicy
      ++ Json.member "filter" w.filter
      ++ Json.member "name" w.name
      ++ Json.member "task_template" w.taskTemplate)
  ofJson? j := do
    let r ← j.record? 4
    some {
      name := ← r.required 0 "name"
      filter := ← r.defaulted 1 "filter" ""
      concurrencyPolicy := ← r.optional 2 "concurrency_policy"
      taskTemplate := ← r.required 3 "task_template" }

instance : Wire TriggerSpec where
  toJson s := .object
    (Json.memberIfSome "auth" s.auth
      ++ Json.member "concurrency_policy" s.concurrencyPolicy
      ++ Json.member "filter" s.filter
      ++ Json.memberUnlessEmpty "rules" s.rules
      ++ Json.memberIfSome "task_template" s.taskTemplate)
  ofJson? j := do
    let r ← j.record? 5
    some {
      auth := ← r.optional 0 "auth"
      filter := ← r.defaulted 1 "filter" ""
      concurrencyPolicy := ← r.defaulted 2 "concurrency_policy" ConcurrencyPolicy.allow
      taskTemplate := ← r.optional 3 "task_template"
      rules := ← r.defaulted 4 "rules" [] }

instance : Wire RuleStatus where
  toJson s := .object
    (Json.memberUnlessEmpty "active_resources" s.activeResources
      ++ Json.memberIfSome "last_triggered_time" s.lastTriggeredTime
      ++ Json.member "name" s.name
      ++ Json.member "total_triggered" s.totalTriggered)
  ofJson? j := do
    let r ← j.record? 4
    some {
      name := ← r.required 0 "name"
      lastTriggeredTime := ← r.optional 1 "last_triggered_time"
      totalTriggered := ← r.defaulted 2 "total_triggered" 0
      activeResources := ← r.defaulted 3 "active_resources" [] }

instance : Wire TriggerStatus where
  toJson s := .object
    (Json.memberUnlessEmpty "active_tasks" s.activeTasks
      ++ Json.memberIfSome "last_triggered_time" s.lastTriggeredTime
      ++ Json.memberUnlessEmpty "rule_statuses" s.ruleStatuses
      ++ Json.member "total_triggered" s.totalTriggered
      ++ Json.memberIfSome "webhook_url" s.webhookUrl)
  ofJson? j := do
    let r ← j.record? 5
    some {
      webhookUrl := ← r.optional 0 "webhook_url"
      lastTriggeredTime := ← r.optional 1 "last_triggered_time"
      totalTriggered := ← r.defaulted 2 "total_triggered" 0
      activeTasks := ← r.defaulted 3 "active_tasks" []
      ruleStatuses := ← r.defaulted 4 "rule_statuses" [] }

instance : Wire WebhookTrigger where
  toJson t := .object
    (Json.member "metadata" t.metadata ++ Json.member "spec" t.spec ++ Json.member "status" t.status)
  ofJson? j := do
    let r ← j.record? 3
    some {
      metadata := ← r.required 0 "metadata"
      spec := ← r.required 1 "spec"
      status := ← r.defaulted 2 "status" TriggerStatus.fresh }

end Wire
end Turnstile
