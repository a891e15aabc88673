import Turnstile.Store.Basic
import Turnstile.Workload
/-! Procedures: what the controllers do to the store and the workloads, one call
at a time. A procedure says nothing of what others do between two of its calls;
run against a backend without them it is atomic. -/
namespace Turnstile

inductive Call where
  | get (k : Kind) (key : Key)
  | list (k : Kind) (selector : Selector)
  | create (k : Kind) (object : k.Object)
  | update (k : Kind) (object : k.Object)
  | updateStatus (k : Kind) (object : k.Object)
  | delete (k : Kind) (key : Key)
  | createWorkload (spec : WorkloadSpec)
  | workloadStatus (key : Key)
  | deleteWorkload (key : Key)

namespace Call

abbrev Reply : Call → Type
  | get k _ => Except StoreError (Option k.Object)
  | list k _ => Except StoreError (List k.Object)
  | create k _ => Except StoreError k.Object
  | update k _ => Except StoreError k.Object
  | updateStatus k _ => Except StoreError k.Object
  | delete _ _ => Except StoreError Bool
  | createWorkload _ => Except WorkloadError Unit
  | workloadStatus _ => Except WorkloadError (Option WorkloadStatus)
  | deleteWorkload _ => Except WorkloadError Unit

end Call

inductive Procedure (α : Type) where
  | done (a : α)
  | call (c : Call) (next : c.Reply → Procedure α)

namespace Procedure

variable {α β σ : Type}

def bind : Procedure α → (α → Procedure β) → Procedure β
  | done a, f => f a
  | call c next, f => call c fun r => (next r).bind f

instance : Monad Procedure where
  pure := done
  bind := bind

def ask (c : Call) : Procedure c.Reply := call c done

def runWith (perform : (c : Call) → σ → c.Reply × σ) : Procedure α → σ → α × σ
  | done a, s => (a, s)
  | call c next, s =>
    let (r, s) := perform c s
    runWith perform (next r) s

@[simp] theorem runDone (perform : (c : Call) → σ → c.Reply × σ) (a : α) (s : σ) :
    (done a).runWith perform s = (a, s) := rfl

@[simp] theorem runCall (perform : (c : Call) → σ → c.Reply × σ) (c : Call)
    (next : c.Reply → Procedure α) (s : σ) :
    (call c next).runWith perform s = (next (perform c s).1).runWith perform (perform c s).2 := rfl

@[simp] theorem runBind (perform : (c : Call) → σ → c.Reply × σ) (p : Procedure α)
    (f : α → Procedure β) (s : σ) :
    (p >>= f).runWith perform s =
      (f (p.runWith perform s).1).runWith perform (p.runWith perform s).2 := by
  induction p generalizing s with
  | done a => rfl
  | call c next ih => exact ih _ _

end Procedure

structure Backend where
  store : Store
  workloads : Workloads

namespace Backend

def empty : Backend := ⟨.empty, .empty⟩

instance : Inhabited Backend := ⟨empty⟩

def perform (now : Instant) (c : Call) (b : Backend) : c.Reply × Backend :=
  match c with
  | .get k key => (.ok (b.store.get? k key), b)
  | .list k selector => (.ok (b.store.list k selector), b)
  | .create k o =>
    let (r, store) := b.store.create now k o
    (r, { b with store })
  | .update k o =>
    let (r, store) := b.store.update k o
    (r, { b with store })
  | .updateStatus k o =>
    let (r, store) := b.store.updateStatus k o
    (r, { b with store })
  | .delete k key =>
    let (r, store) := b.store.delete k key
    (.ok r, { b with store })
  | .createWorkload spec =>
    let (r, workloads) := b.workloads.create now spec
    (r, { b with workloads })
  | .workloadStatus key =>
    let (r, workloads) := b.workloads.status now key
    (.ok r, { b with workloads })
  | .deleteWorkload key => (.ok (), { b with workloads := b.workloads.delete key })

end Backend

def Procedure.run {α : Type} (p : Procedure α) (now : Instant) (b : Backend) : α × Backend :=
  p.runWith (Backend.perform now) b

end Turnstile
