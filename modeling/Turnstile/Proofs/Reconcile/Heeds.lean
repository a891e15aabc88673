import Turnstile.Proofs.Procedure
import Turnstile.Reconcile.Basic
/-! Steps of a reconcile that heed a rule. What is promised of their results holds
where they do not fail, and every step is judged by the calls alone. -/
namespace Turnstile.Reconcile
open Procedure

def Heeds {α : Type} (allowed : List Told → Call → Prop) (told : List Told)
    (result : List Told → α → Prop) (p : Step α) : Prop :=
  Obeys allowed (fun told (r : Except ReconcileError α) => ∀ a, r = .ok a → result told a) told p.run

namespace Heeds
variable {α β : Type} {allowed : List Told → Call → Prop} {told : List Told}
  {result : List Told → α → Prop}

theorem pure {a : α} (holds : result told a) : Heeds allowed told result (Pure.pure a) := by
  intro b same
  cases same
  exact holds

theorem throw (e : ReconcileError) : Heeds allowed told result (MonadExcept.throw e : Step α) := by
  intro a impossible
  cases impossible

theorem bind {p : Step α} {f : α → Step β} {last : List Told → β → Prop}
    (first : Heeds allowed told result p) (rest : ∀ told a, result told a → Heeds allowed told last (f a)) :
    Heeds allowed told last (p >>= f) := by
  have after : Obeys allowed (fun told r => Obeys allowed
      (fun told (r : Except ReconcileError β) => ∀ b, r = .ok b → last told b) told
      (ExceptT.bindCont f r)) told p.run := by
    refine first.weaken fun told r holds => ?_
    cases r with
    | ok a => exact rest told a (holds a rfl)
    | error e => exact fun b impossible => nomatch impossible
  exact Obeys.bind after

theorem andThen {p : Step α} {f : α → Step β} {last : List Told → β → Prop}
    (first : Heeds allowed told (fun _ _ => True) p) (rest : ∀ told a, Heeds allowed told last (f a)) :
    Heeds allowed told last (p >>= f) :=
  first.bind fun told a _ => rest told a

theorem ofStore {p : Procedure (Except StoreError α)}
    (h : Obeys allowed (fun told r => ∀ a, r = .ok a → result told a) told p) :
    Heeds allowed told result (ofStore p) := by
  refine Obeys.bind (h.weaken fun told r holds => ?_)
  intro a same
  cases r with
  | error e => cases same
  | ok found => exact holds a (by cases same; rfl)

theorem ofWorkload {p : Procedure (Except WorkloadError α)}
    (h : Obeys allowed (fun told r => ∀ a, r = .ok a → result told a) told p) :
    Heeds allowed told result (ofWorkload p) := by
  refine Obeys.bind (h.weaken fun told r holds => ?_)
  intro a same
  cases r with
  | error e => cases same
  | ok found => exact holds a (by cases same; rfl)

theorem lift {p : Procedure α} (h : Obeys allowed result told p) :
    Heeds allowed told result (ExceptT.lift p) := by
  refine Obeys.bind (h.weaken fun told a holds => ?_)
  intro b same
  cases same
  exact holds

end Heeds
end Turnstile.Reconcile
