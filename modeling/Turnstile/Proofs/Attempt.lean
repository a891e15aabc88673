import Turnstile.Faults
import Turnstile.Proofs.Procedure
/-! Procedures some of whose calls fail. A call is answered by the backend, or, if it is one that
may fail, by an error and leaves the backend as it is. Nothing else comes between the calls. -/
namespace Turnstile

namespace Procedure
variable {α β : Type}

inductive Attempt (fails : Call → Prop) (now : Instant) : Procedure α → Backend → α → Backend → Prop where
  | done {a b} : Attempt fails now (done a) b a b
  | answered {c next b a after}
      (rest : Attempt fails now (next (b.perform now c).1) (b.perform now c).2 a after) :
      Attempt fails now (call c next) b a after
  | failed {c next b a after} (failure : Failure) (may : fails c)
      (rest : Attempt fails now (next (c.failed failure)) b a after) :
      Attempt fails now (call c next) b a after

namespace Attempt
variable {fails : Call → Prop} {now : Instant} {b after : Backend} {a : α}

theorem ofRun (p : Procedure α) (b : Backend) : Attempt fails now p b (p.run now b).1 (p.run now b).2 := by
  induction p generalizing b with
  | done a => exact .done
  | call c next ih => exact .answered (ih _ _)

theorem bind {p : Procedure α} {f : α → Procedure β} {z : β} (whole : Attempt fails now (p >>= f) b z after) :
    ∃ a middle, Attempt fails now p b a middle ∧ Attempt fails now (f a) middle z after := by
  induction p generalizing b with
  | done a => exact ⟨a, b, .done, whole⟩
  | call c next ih =>
    cases whole with
    | answered rest =>
      obtain ⟨a, middle, first, last⟩ := ih _ rest
      exact ⟨a, middle, .answered first, last⟩
    | failed failure may rest =>
      obtain ⟨a, middle, first, last⟩ := ih _ rest
      exact ⟨a, middle, .failed failure may first, last⟩

theorem ask {c : Call} {reply : c.Reply} (asked : Attempt fails now (ask c) b reply after) :
    (reply = (b.perform now c).1 ∧ after = (b.perform now c).2) ∨
      (fails c ∧ after = b ∧ ∃ failure, reply = c.failed failure) := by
  cases asked with
  | answered rest =>
    cases rest
    exact .inl ⟨rfl, rfl⟩
  | failed failure may rest =>
    cases rest
    exact .inr ⟨may, rfl, failure, rfl⟩

end Attempt
end Procedure

def Call.OfTasks : Call → Prop
  | .get .task _ | .list .task _ | .create .task _ | .update .task _ => True
  | _ => False

end Turnstile
