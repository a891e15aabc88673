import Turnstile.Procedure
import Turnstile.Proofs.Store
import Turnstile.Proofs.Store.Versions
/-! The record of changes. Whatever is done to a store, its record only grows, and
every object that is new or not what it was has an entry in what was added. One call
makes one entry at most. -/
namespace Turnstile

namespace Collection
variable {k : Kind} {a b c : Collection k}

structure Follows (a b : Collection k) : Prop where
  grows : ∀ (i : Nat) (e : Event k), a.events[i]? = some e → b.events[i]? = some e
  told : ∀ key o, b.objects.get? key = some o → a.objects.get? key = some o ∨
    ∃ (i : Nat) (o' : k.Object), a.events.size ≤ i ∧ b.events[i]? = some (.applied o') ∧ k.key o' = key

namespace Follows

theorem refl (a : Collection k) : Follows a a := ⟨fun _ _ there => there, fun _ _ found => .inl found⟩

theorem size (h : Follows a b) : a.events.size ≤ b.events.size := by
  rcases Nat.lt_or_ge b.events.size a.events.size with shorter | longer
  · have last := h.grows b.events.size _ (Array.getElem?_eq_getElem shorter)
    rw [Array.getElem?_eq_none (Nat.le_refl _)] at last
    cases last
  · exact longer

theorem trans (first : Follows a b) (second : Follows b c) : Follows a c := by
  refine ⟨fun i e there => second.grows i e (first.grows i e there), fun key o found => ?_⟩
  rcases second.told key o found with before | ⟨i, o', later, event, own⟩
  · rcases first.told key o before with old | ⟨i, o', later, event, own⟩
    · exact .inl old
    · exact .inr ⟨i, o', later, second.grows i _ event, own⟩
  · exact .inr ⟨i, o', Nat.le_trans first.size later, event, own⟩

theorem pushed {e : Event k} (grown : b.events = a.events.push e)
    (told : ∀ key o, b.objects.get? key = some o → a.objects.get? key = some o ∨
      ∃ o', e = .applied o' ∧ k.key o' = key) : Follows a b := by
  refine ⟨fun i e there => ?_, fun key o found => ?_⟩
  · obtain ⟨within, -⟩ := Array.getElem?_eq_some_iff.mp there
    rw [grown, Array.getElem?_push_lt within, ← there, Array.getElem?_eq_getElem within]
  · refine (told key o found).imp_right fun ⟨o', same, own⟩ => ?_
    refine ⟨a.events.size, o', Nat.le_refl _, ?_, own⟩
    rw [grown, same, Array.getElem?_push_size]

end Follows

theorem putFollows (c : Collection k) (o : k.Object) : Follows c (c.put o) := by
  refine Follows.pushed rfl fun key found stored => ?_
  rcases putFound stored with ⟨rfl, -⟩ | ⟨-, before⟩
  · exact .inr ⟨o, rfl, rfl⟩
  · exact .inl before

theorem dropFollows (c : Collection k) (key : Key) (o : k.Object) : Follows c (c.drop key o) :=
  Follows.pushed rfl fun _ _ stored => .inl (dropFound stored).2

inductive Entered (a : Collection k) : Collection k → Prop where
  | same : Entered a a
  | put (o : k.Object) : Entered a (a.put o)
  | drop {key : Key} {o : k.Object} (stored : a.objects.get? key = some o) : Entered a (a.drop key o)

namespace Entered

theorem follows (h : Entered a b) : Follows a b := by
  cases h with
  | same => exact .refl a
  | put o => exact a.putFollows o
  | drop => exact a.dropFollows _ _

theorem told (h : Entered a b) (key : Key) : b.objects.get? key = a.objects.get? key ∨
    ∃ e, b.events[a.events.size]? = some e ∧ e.key = key := by
  cases h with
  | same => exact .inl rfl
  | put o =>
    by_cases own : key = k.key o
    · exact .inr ⟨.applied o, Array.getElem?_push_size, own.symm⟩
    · exact .inl (a.putOther own)
  | @drop gone o stored =>
    by_cases own : key = gone
    · exact .inr ⟨.deleted o, Array.getElem?_push_size, (a.keyed stored).trans own.symm⟩
    · exact .inl (a.dropOther o own)

theorem gone (h : Entered a b) {i : Nat} {o : k.Object} (new : a.events.size ≤ i)
    (event : b.events[i]? = some (.deleted o)) : b.objects.get? (k.key o) = none := by
  have pushed : ∀ {e : Event k}, (a.events.push e)[i]? = some (.deleted o) → e = .deleted o := by
    intro e there
    obtain ⟨within, -⟩ := Array.getElem?_eq_some_iff.mp there
    rw [Array.size_push] at within
    have last : i = a.events.size := by omega
    rw [last, Array.getElem?_push_size] at there
    exact Option.some.inj there
  cases h with
  | same =>
    rw [Array.getElem?_eq_none new] at event
    cases event
  | put o' => cases pushed event
  | @drop key old stored =>
    cases pushed event
    rw [a.keyed stored]
    exact a.dropSame key o

end Entered
end Collection

theorem Store.Outcome.entered {s : Store} {k : Kind} {r : Except StoreError k.Object × Store}
    (outcome : s.Outcome k r) (j : Kind) : (s.collection j).Entered (r.2.collection j) := by
  cases outcome with
  | refused kept =>
    dsimp only
    rw [kept j]
    exact .same
  | stored _ put others =>
    dsimp only
    by_cases own : j = k
    · subst own
      rw [put]
      exact .put _
    · rw [others j own]
      exact .same

theorem Backend.performEntered (now : Instant) (c : Call) (b : Backend) (j : Kind) :
    (b.store.collection j).Entered ((b.perform now c).2.store.collection j) := by
  cases c with
  | get | list | createWorkload | workloadStatus | deleteWorkload => exact .same
  | create k o => exact (Store.createOutcome now o).entered j
  | update k o => exact (Store.updateOutcome o).entered j
  | updateStatus k o => exact (Store.updateStatusOutcome o).entered j
  | delete k key =>
    change (b.store.collection j).Entered ((b.store.delete k key).2.collection j)
    unfold Store.delete Collection.delete
    cases stored : (b.store.collection k).objects.get? key with
    | none =>
      dsimp only
      rw [Store.sameCollection rfl]
      exact .same
    | some o =>
      dsimp only
      by_cases own : j = k
      · subst own
        rw [Store.collectionSame]
        exact .drop stored
      · rw [Store.collectionOther _ _ own]
        exact .same

theorem TaskWrite.follows {c : Call} {before after : Collection .task} (write : TaskWrite c before after) :
    before.Follows after := by
  cases write with
  | none => exact .refl _
  | created | respecified | restatused => exact Collection.putFollows _ _
  | deleted => exact Collection.dropFollows _ _ _

theorem Procedure.runFollows {α : Type} (p : Procedure α) (now : Instant) (b : Backend) :
    b.store.tasks.Follows (p.run now b).2.store.tasks := by
  induction p generalizing b with
  | done a => exact .refl _
  | call c next ih => exact (b.performTasks now c).follows.trans (ih _ _)

end Turnstile
