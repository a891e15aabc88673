import Turnstile.Task.Status
/-! Tasks and the templates they may be layered over. -/
namespace Turnstile

inductive ContextKind where
  | text | file | url
  deriving DecidableEq, Repr

structure ContextItem where
  name : Option String
  kind : ContextKind
  value : String
  deriving DecidableEq, Repr

structure OutputSpec where
  name : String
  description : Option String
  default : Option String
  deriving DecidableEq, Repr

inductive Backoff where
  | linear | exponential
  deriving DecidableEq, Repr

structure RetryPolicy where
  maxAttempts : UInt32
  backoff : Backoff
  maxDelaySecs : Option UInt64
  deriving DecidableEq, Repr

def RetryPolicy.standard : RetryPolicy := ⟨3, .linear, none⟩

structure TaskSpec where
  description : String
  agentRef : Option Reference
  contexts : List ContextItem
  outputs : List OutputSpec
  templateRef : Option Reference
  retryPolicy : Option RetryPolicy
  deriving DecidableEq, Repr

structure Task where
  metadata : Metadata
  spec : TaskSpec
  status : TaskStatus
  deriving DecidableEq, Repr

structure TemplateSpec where
  description : Option String
  agentRef : Option Reference
  contexts : List ContextItem
  outputs : List OutputSpec
  deriving DecidableEq, Repr

structure TaskTemplate where
  metadata : Metadata
  spec : TemplateSpec
  deriving DecidableEq, Repr

namespace Task

def stopAnnotation : String := "taskgate.io/stop"

def key (t : Task) : Key := t.metadata.key

def phase (t : Task) : Phase := t.status.phase.getD .pending

def isActive (t : Task) : Bool := !t.phase.isTerminal

def stopRequested (t : Task) : Bool := t.metadata.annotations.get? stopAnnotation == some "true"

/-- The agent that a task counts against: the one recorded at admission, else
the one that the task names itself. -/
def agentKey? (t : Task) : Option Key :=
  t.status.agent.or (t.spec.agentRef.map (·.resolve t.metadata.ns))

end Task

/-- The task's own fields win; contexts of the template come first, and its
outputs are kept unless the task declares one of that name. -/
def TemplateSpec.mergeInto (template : TemplateSpec) (task : TaskSpec) : TaskSpec where
  description := if task.description.isEmpty then template.description.getD "" else task.description
  agentRef := task.agentRef.or template.agentRef
  contexts := template.contexts ++ task.contexts
  outputs := template.outputs.filter (fun o => !task.outputs.any (·.name == o.name)) ++ task.outputs
  templateRef := task.templateRef
  retryPolicy := task.retryPolicy

namespace Wire

def contextKindNames : List (String × ContextKind) := [("text", .text), ("file", .file), ("url", .url)]

instance : Wire ContextKind where
  toJson
    | .text => .string "text"
    | .file => .string "file"
    | .url => .string "url"
  ofJson? := ofName? contextKindNames

instance : Wire Backoff where
  toJson
    | .linear => .string "linear"
    | .exponential => .string "exponential"
  ofJson? := ofName? [("linear", .linear), ("exponential", .exponential)]

instance : Wire ContextItem where
  toJson c := .object
    (Json.member "kind" c.kind ++ Json.memberIfSome "name" c.name ++ Json.member "value" c.value)
  ofJson? j := do
    let r ← j.record? 3
    some {
      name := ← r.optional 0 "name"
      kind := ← r.defaulted 1 "kind" ContextKind.text
      value := ← r.required 2 "value" }

instance : Wire OutputSpec where
  toJson o := .object
    (Json.memberIfSome "default" o.default ++ Json.memberIfSome "description" o.description
      ++ Json.member "name" o.name)
  ofJson? j := do
    let r ← j.record? 3
    some {
      name := ← r.required 0 "name"
      description := ← r.optional 1 "description"
      default := ← r.optional 2 "default" }

instance : Wire RetryPolicy where
  toJson p := .object
    (Json.member "backoff" p.backoff ++ Json.member "max_attempts" p.maxAttempts
      ++ Json.memberIfSome "max_delay_secs" p.maxDelaySecs)
  ofJson? j := do
    let r ← j.record? 3
    some {
      maxAttempts := ← r.defaulted 0 "max_attempts" RetryPolicy.standard.maxAttempts
      backoff := ← r.defaulted 1 "backoff" RetryPolicy.standard.backoff
      maxDelaySecs := ← r.optional 2 "max_delay_secs" }

instance : Wire TaskSpec where
  toJson s := .object
    (Json.memberIfSome "agent_ref" s.agentRef
      ++ Json.memberUnlessEmpty "contexts" s.contexts
      ++ Json.member "description" s.description
      ++ Json.memberUnlessEmpty "outputs" s.outputs
      ++ Json.memberIfSome "retry_policy" s.retryPolicy
      ++ Json.memberIfSome "template_ref" s.templateRef)
  ofJson? j := do
    let r ← j.record? 6
    some {
      description := ← r.defaulted 0 "description" ""
      agentRef := ← r.optional 1 "agent_ref"
      contexts := ← r.defaulted 2 "contexts" []
      outputs := ← r.defaulted 3 "outputs" []
      templateRef := ← r.optional 4 "template_ref"
      retryPolicy := ← r.optional 5 "retry_policy" }

instance : Wire Task where
  toJson t := .object
    (Json.member "metadata" t.metadata ++ Json.member "spec" t.spec ++ Json.member "status" t.status)
  ofJson? j := do
    let r ← j.record? 3
    some {
      metadata := ← r.required 0 "metadata"
      spec := ← r.required 1 "spec"
      status := ← r.defaulted 2 "status" TaskStatus.fresh }

instance : Wire TemplateSpec where
  toJson s := .object
    (Json.memberIfSome "agent_ref" s.agentRef
      ++ Json.memberUnlessEmpty "contexts" s.contexts
      ++ Json.memberIfSome "description" s.description
      ++ Json.memberUnlessEmpty "outputs" s.outputs)
  ofJson? j := do
    let r ← j.record? 4
    some {
      description := ← r.optional 0 "description"
      agentRef := ← r.optional 1 "agent_ref"
      contexts := ← r.defaulted 2 "contexts" []
      outputs := ← r.defaulted 3 "outputs" [] }

instance : Wire TaskTemplate where
  toJson t := .object (Json.member "metadata" t.metadata ++ Json.member "spec" t.spec)
  ofJson? j := do
    let r ← j.record? 2
    some ⟨← r.required 0 "metadata", ← r.required 1 "spec"⟩

end Wire
end Turnstile
