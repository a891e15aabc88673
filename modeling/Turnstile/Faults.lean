import Turnstile.Procedure
/-! Faults that make calls fail on purpose. Every fault waits for calls of one
name, lets some of them through and then fails some. -/
namespace Turnstile

inductive Failure where
  | conflict | notFound | alreadyExists | invalid | rejected | unavailable
  deriving DecidableEq, Repr

structure Fault where
  call : String
  failure : Failure
  skip : UInt64
  times : UInt64
  deriving DecidableEq, Repr

namespace Failure

def cause : String := "injected"

def storeError (k : Kind) (key : String) : Failure → StoreError
  | conflict => .conflict k key cause
  | notFound => .notFound k key
  | alreadyExists => .alreadyExists k key
  | invalid => .invalid cause
  | rejected | unavailable => .unavailable cause

def workloadError : Failure → WorkloadError
  | rejected => .rejected cause
  | _ => .unavailable cause

end Failure

namespace Call

def name : Call → String
  | get k _ => k.text ++ ".get"
  | list k _ => k.text ++ ".list"
  | create k _ => k.text ++ ".create"
  | update k _ => k.text ++ ".update"
  | updateStatus k _ => k.text ++ ".update_status"
  | delete k _ => k.text ++ ".delete"
  | createWorkload _ => "Workload.create"
  | workloadStatus _ => "Workload.status"
  | deleteWorkload _ => "Workload.delete"

def failed (f : Failure) : (c : Call) → c.Reply
  | get k key => .error (f.storeError k key.text)
  | list k _ => .error (f.storeError k "")
  | create k o => .error (f.storeError k (k.key o).text)
  | update k o => .error (f.storeError k (k.key o).text)
  | updateStatus k o => .error (f.storeError k (k.key o).text)
  | delete k key => .error (f.storeError k key.text)
  | createWorkload _ => .error f.workloadError
  | workloadStatus _ => .error f.workloadError
  | deleteWorkload _ => .error f.workloadError

end Call

namespace Fault

def strike (name : String) : List Fault → Option Failure × List Fault
  | [] => (none, [])
  | f :: rest =>
    if f.call == name && f.times ≠ 0 then
      if f.skip ≠ 0 then (none, { f with skip := f.skip - 1 } :: rest)
      else (some f.failure, { f with times := f.times - 1 } :: rest)
    else
      let (failure, rest) := strike name rest
      (failure, f :: rest)

end Fault

structure FaultyBackend where
  backend : Backend
  faults : List Fault

namespace FaultyBackend

def empty : FaultyBackend := ⟨.empty, []⟩

instance : Inhabited FaultyBackend := ⟨empty⟩

def perform (guarded : Bool) (now : Instant) (c : Call) (b : FaultyBackend) : c.Reply × FaultyBackend :=
  match if guarded then Fault.strike c.name b.faults else (none, b.faults) with
  | (some failure, faults) => (c.failed failure, { b with faults })
  | (none, faults) =>
    let (reply, backend) := b.backend.perform now c
    (reply, ⟨backend, faults⟩)

end FaultyBackend
end Turnstile
