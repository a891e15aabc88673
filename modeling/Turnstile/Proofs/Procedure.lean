import Turnstile.Proofs.Store
/-! What a procedure may ask for, whatever it is answered. A rule judges a call by
what was asked and answered before it, so it holds however others come between
the calls; a rule that each call keeps an invariant carries it over a run. -/
namespace Turnstile

structure Told where
  call : Call
  reply : call.Reply

def Call.Reads : Call → Prop
  | .get .. | .list .. => True
  | _ => False

theorem Backend.readLeaves {c : Call} (reads : c.Reads) (now : Instant) (b : Backend) :
    (b.perform now c).2 = b := by
  cases c with
  | get | list => rfl
  | create | update | updateStatus | delete | createWorkload | workloadStatus | deleteWorkload =>
    exact reads.elim

theorem Backend.getAnswered {b : Backend} {now : Instant} {c : Call} {k : Kind} {key : Key} {o : k.Object}
    (same : Told.mk c (b.perform now c).1 = ⟨.get k key, .ok (some o)⟩) :
    b.store.get? k (k.key o) = some o := by
  have call : c = .get k key := congrArg Told.call same
  subst call
  have stored : b.store.get? k key = some o := Except.ok.inj (eq_of_heq (Told.mk.inj same).2)
  rw [(b.store.collection k).keyed stored]
  exact stored

namespace Procedure
variable {α β : Type}

def Obeys (allowed : List Told → Call → Prop) (result : List Told → α → Prop) :
    List Told → Procedure α → Prop
  | told, done a => result told a
  | told, call c next => allowed told c ∧ ∀ reply, Obeys allowed result (told ++ [⟨c, reply⟩]) (next reply)

theorem bindPure (p : Procedure α) : (p >>= pure) = p := by
  induction p with
  | done a => rfl
  | call c next ih => exact congrArg (call c) (funext ih)

variable {allowed : List Told → Call → Prop} {told : List Told}

theorem Obeys.bind {p : Procedure α} {f : α → Procedure β} {result : List Told → β → Prop}
    (first : Obeys allowed (fun told a => Obeys allowed result told (f a)) told p) :
    Obeys allowed result told (p >>= f) := by
  induction p generalizing told with
  | done a => exact first
  | call c next ih => exact ⟨first.1, fun reply => ih reply (first.2 reply)⟩

theorem Obeys.weaken {p : Procedure α} {weak strong : List Told → α → Prop}
    (h : Obeys allowed strong told p) (implied : ∀ told a, strong told a → weak told a) :
    Obeys allowed weak told p := by
  induction p generalizing told with
  | done a => exact implied _ _ h
  | call c next ih => exact ⟨h.1, fun reply => ih reply (h.2 reply)⟩

theorem Obeys.imp {may other : Call → Prop} {p : Procedure α} {result : List Told → α → Prop}
    (h : Obeys (fun _ => may) result told p) (implied : ∀ c, may c → other c) :
    Obeys (fun _ => other) result told p := by
  induction p generalizing told with
  | done a => exact h
  | call c next ih => exact ⟨implied c h.1, fun reply => ih reply (h.2 reply)⟩

abbrev Ends (result : List Told → α → Prop) : List Told → Procedure α → Prop :=
  Obeys (fun _ _ => True) result

theorem endsTrue (p : Procedure α) : Ends (fun _ _ => True) told p := by
  induction p generalizing told with
  | done a => trivial
  | call c next ih => exact ⟨trivial, fun reply => ih reply⟩

theorem Obeys.runResult {p : Procedure α} {holds : α → Prop} {now : Instant} {b : Backend}
    (ends : Obeys allowed (fun _ => holds) told p) : holds (p.run now b).1 := by
  induction p generalizing told b with
  | done a => exact ends
  | call c next ih => exact ih _ (ends.2 _)

def Only (may : Call → Prop) (p : Procedure α) : Prop :=
  Obeys (fun _ => may) (fun _ _ => True) [] p

variable {may : Call → Prop}

theorem obeysAnyTold {p : Procedure α} {holds : α → Prop} {other : List Told}
    (h : Obeys (fun _ => may) (fun _ => holds) told p) :
    Obeys (fun _ => may) (fun _ => holds) other p := by
  induction p generalizing told other with
  | done a => exact h
  | call c next ih => exact ⟨h.1, fun reply => ih reply (h.2 reply)⟩

theorem onlyPure (a : α) : Only may (pure a : Procedure α) := trivial

theorem onlyAsk {c : Call} (h : may c) : Only may (ask c) := ⟨h, fun _ => trivial⟩

theorem Only.bind {p : Procedure α} {f : α → Procedure β} (first : Only may p)
    (rest : ∀ a, Only may (f a)) : Only may (p >>= f) :=
  Obeys.bind (first.weaken fun _ a _ => obeysAnyTold (rest a))

theorem Only.imp {other : Call → Prop} {p : Procedure α} (only : Only may p)
    (implied : ∀ c, may c → other c) : Only other p :=
  Obeys.imp only implied

theorem Only.runKeeps {p : Procedure α} {now : Instant} {b : Backend} {holds : Backend → Prop}
    (only : Only may p)
    (kept : ∀ c b, may c → holds b → holds (b.perform now c).2) (before : holds b) :
    holds (p.run now b).2 := by
  induction p generalizing b with
  | done a => exact before
  | call c next ih =>
    exact ih _ (obeysAnyTold (only.2 (b.perform now c).1)) (kept c b only.1 before)

end Procedure
end Turnstile
