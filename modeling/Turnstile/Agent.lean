import Turnstile.Object.Metadata
/-! Agents: what tasks run on, and the limits under which they start. -/
namespace Turnstile

structure AgentQuota where
  maxTaskStarts : UInt32
  windowSeconds : UInt64
  deriving DecidableEq, Repr

structure AgentSpec where
  image : String
  executorImage : Option String
  maxConcurrentTasks : Option UInt32
  quota : Option AgentQuota
  allowedNamespaces : List String
  deriving DecidableEq, Repr

structure Agent where
  metadata : Metadata
  spec : AgentSpec
  deriving DecidableEq, Repr

namespace Agent

def key (a : Agent) : Key := a.metadata.key

def allowsNamespace (a : Agent) (ns : String) : Bool :=
  ns == a.metadata.ns || a.spec.allowedNamespaces.any fun allowed => allowed == "*" || allowed == ns

end Agent

namespace Wire

instance : Wire AgentQuota where
  toJson q := .object
    (Json.member "max_task_starts" q.maxTaskStarts ++ Json.member "window_seconds" q.windowSeconds)
  ofJson? j := do
    let r ← j.record? 2
    some ⟨← r.required 0 "max_task_starts", ← r.required 1 "window_seconds"⟩

instance : Wire AgentSpec where
  toJson s := .object
    (Json.memberUnlessEmpty "allowed_namespaces" s.allowedNamespaces
      ++ Json.memberIfSome "executor_image" s.executorImage
      ++ Json.member "image" s.image
      ++ Json.memberIfSome "max_concurrent_tasks" s.maxConcurrentTasks
      ++ Json.memberIfSome "quota" s.quota)
  ofJson? j := do
    let r ← j.record? 5
    some {
      image := ← r.required 0 "image"
      executorImage := ← r.optional 1 "executor_image"
      maxConcurrentTasks := ← r.optional 2 "max_concurrent_tasks"
      quota := ← r.optional 3 "quota"
      allowedNamespaces := ← r.defaulted 4 "allowed_namespaces" [] }

instance : Wire Agent where
  toJson a := .object (Json.member "metadata" a.metadata ++ Json.member "spec" a.spec)
  ofJson? j := do
    let r ← j.record? 2
    some ⟨← r.required 0 "metadata", ← r.required 1 "spec"⟩

end Wire
end Turnstile
