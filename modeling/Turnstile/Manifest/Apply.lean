import Turnstile.Manifest.Basic
import Turnstile.Procedure
/-! Bringing manifests into a store, one after the other: an object that is
there is replaced, another one is created. -/
namespace Turnstile

inductive ApplyError where
  | invalidTrigger (what : String) (fault : TriggerSpecError)
  | failed (what : String) (cause : StoreError)
  deriving DecidableEq, Repr

def ApplyError.message : ApplyError → String
  | invalidTrigger what fault => what ++ ": " ++ fault.message
  | failed what _ => "failed to apply " ++ what

namespace Manifest

def fault? (m : Manifest) : Option TriggerSpecError :=
  match m with
  | ⟨.trigger, t⟩ => t.spec.fault?
  | _ => none

def replacing (k : Kind) (stored object : k.Object) : k.Object :=
  k.withMetadata object
    { k.metadata object with resourceVersion := (k.metadata stored).resourceVersion }

def write (k : Kind) (object : k.Object) : Procedure (Except StoreError k.Object) := do
  match ← Procedure.ask (.get k (k.key object)) with
  | .error e => pure (.error e)
  | .ok (some stored) => Procedure.ask (.update k (replacing k stored object))
  | .ok none => Procedure.ask (.create k object)

def apply (m : Manifest) : Procedure (Except ApplyError Unit) :=
  match m.fault? with
  | some fault => pure (.error (.invalidTrigger m.describe fault))
  | none => do
    match ← write m.kind m.object with
    | .error e => pure (.error (.failed m.describe e))
    | .ok _ => pure (.ok ())

def applyFrom (count : Nat) : List Manifest → Procedure (Except ApplyError Nat)
  | [] => pure (.ok count)
  | m :: rest => do
    match ← m.apply with
    | .error e => pure (.error e)
    | .ok () => applyFrom (count + 1) rest

def applyAll (ms : List Manifest) : Procedure (Except ApplyError Nat) := applyFrom 0 ms

end Manifest
end Turnstile
