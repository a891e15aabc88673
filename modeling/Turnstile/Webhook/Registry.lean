import Turnstile.Trigger.Basic
/-! The triggers that are served. All of them are valid. -/
namespace Turnstile

structure Registry where
  triggers : SortedMap Key WebhookTrigger
  deriving DecidableEq, Repr

namespace Registry

def empty : Registry := ⟨.empty⟩

instance : Inhabited Registry := ⟨empty⟩

def get? (r : Registry) (key : Key) : Option WebhookTrigger := r.triggers.get? key

def register (r : Registry) (t : WebhookTrigger) : Except TriggerSpecError Unit × Registry :=
  match t.spec.fault? with
  | some fault => (.error fault, ⟨r.triggers.erase t.key⟩)
  | none => (.ok (), ⟨r.triggers.insert t.key t⟩)

def unregister (r : Registry) (key : Key) : Bool × Registry :=
  (r.triggers.contains key, ⟨r.triggers.erase key⟩)

def retain (r : Registry) (live : List Key) : Registry := ⟨r.triggers.filter fun k _ => live.contains k⟩

def keys (r : Registry) : List Key := r.triggers.keys
def size (r : Registry) : Nat := r.triggers.size

end Registry
end Turnstile
