import Turnstile.Task.Basic
import Turnstile.Agent
import Turnstile.Trigger.Basic
import Turnstile.Secret
/-! The kinds of stored objects. -/
namespace Turnstile

inductive Kind where
  | task | agent | template | trigger | secret
  deriving DecidableEq, Repr

namespace Kind

abbrev Object : Kind → Type
  | task => Task
  | agent => Agent
  | template => TaskTemplate
  | trigger => WebhookTrigger
  | secret => Secret

def text : Kind → String
  | task => "Task"
  | agent => "Agent"
  | template => "TaskTemplate"
  | trigger => "WebhookTrigger"
  | secret => "Secret"

def all : List Kind := [task, agent, template, trigger, secret]

def metadata : (k : Kind) → k.Object → Metadata
  | task, o => o.metadata
  | agent, o => o.metadata
  | template, o => o.metadata
  | trigger, o => o.metadata
  | secret, o => o.metadata

def withMetadata : (k : Kind) → k.Object → Metadata → k.Object
  | task, o, m => { o with metadata := m }
  | agent, o, m => { o with metadata := m }
  | template, o, m => { o with metadata := m }
  | trigger, o, m => { o with metadata := m }
  | secret, o, m => { o with metadata := m }

def key (k : Kind) (o : k.Object) : Key := (k.metadata o).key

def keepStatus : (k : Kind) → (stored incoming : k.Object) → k.Object
  | task, stored, incoming => { incoming with status := stored.status }
  | trigger, stored, incoming => { incoming with status := stored.status }
  | agent, _, incoming => incoming
  | template, _, incoming => incoming
  | secret, _, incoming => incoming

def takeStatus : (k : Kind) → (stored incoming : k.Object) → k.Object
  | task, stored, incoming => { stored with status := incoming.status }
  | trigger, stored, incoming => { stored with status := incoming.status }
  | agent, stored, _ => stored
  | template, stored, _ => stored
  | secret, stored, _ => stored

def toJson : (k : Kind) → k.Object → Json
  | task, o => Wire.toJson o
  | agent, o => Wire.toJson o
  | template, o => Wire.toJson o
  | trigger, o => Wire.toJson o
  | secret, o => Wire.toJson o

def ofJson? : (k : Kind) → Json → Option k.Object
  | task, j => Wire.ofJson? j
  | agent, j => Wire.ofJson? j
  | template, j => Wire.ofJson? j
  | trigger, j => Wire.ofJson? j
  | secret, j => Wire.ofJson? j

instance instDecidableEqObject : (k : Kind) → DecidableEq k.Object
  | task => inferInstanceAs (DecidableEq Task)
  | agent => inferInstanceAs (DecidableEq Agent)
  | template => inferInstanceAs (DecidableEq TaskTemplate)
  | trigger => inferInstanceAs (DecidableEq WebhookTrigger)
  | secret => inferInstanceAs (DecidableEq Secret)

@[simp] theorem metadataWith (k : Kind) (o : k.Object) (m : Metadata) :
    k.metadata (k.withMetadata o m) = m := by
  cases k <;> rfl

end Kind

structure Selector where
  ns : Option String
  labels : TextMap
  deriving DecidableEq, Repr

namespace Selector

def all : Selector := ⟨none, .empty⟩

def matchesMetadata (s : Selector) (m : Metadata) : Bool :=
  s.ns.all (· == m.ns) && m.matchesLabels s.labels

end Selector
end Turnstile
