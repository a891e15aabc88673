import Mathlib.Data.List.Induction
import Mathlib.Data.List.Nodup
import Turnstile.Proofs.Since
import Turnstile.Proofs.Task.Coherence
import Turnstile.Proofs.Task.Conditions
/-! Conditions by the history of a status. Whatever was set and removed in whatever order, a type shows
what was last set for it, and the time at which it last came to the status that it has. -/
namespace Turnstile

inductive ConditionCall where
  | set (c : Condition)
  | remove (type : String)
  deriving DecidableEq, Repr

namespace ConditionCall

def given? (type : String) : ConditionCall → Option Condition
  | set c => if c.type = type then some c else none
  | remove _ => none

/-- What was set for a type since it was last removed, the latest first. -/
def standing (type : String) (calls : List ConditionCall) : List Condition :=
  (calls.reverse.takeWhile (· ≠ remove type)).filterMap (given? type)

end ConditionCall

namespace Condition

/-- Of conditions that were set, the latest first, those that were set in a row with the status of the
latest. -/
def lasting (sets : List Condition) : List Condition :=
  sets.takeWhile fun c => some c.status = sets.head?.map Condition.status

def shown (sets : List Condition) : Option Condition :=
  sets.head?.bind fun latest => (lasting sets).getLast?.map fun earliest =>
    { latest with lastTransitionTime := earliest.lastTransitionTime }

theorem shownSome (latest : Condition) (older : List Condition) : ∃ earliest,
    (lasting (latest :: older)).getLast? = some earliest ∧
    shown (latest :: older) = some { latest with lastTransitionTime := earliest.lastTransitionTime } := by
  have filled : lasting (latest :: older) ≠ [] := by simp [lasting]
  have last := List.getLast?_eq_some_getLast filled
  exact ⟨_, last, by simp [shown, last]⟩

theorem shownCons (c : Condition) (sets : List Condition) : shown (c :: sets) = some (c.replacing (shown sets)) := by
  cases sets with
  | nil => simp [shown, lasting, replacing]
  | cons latest older =>
    obtain ⟨earliest, last, told⟩ := shownSome latest older
    rw [told]
    by_cases still : latest.status = c.status
    · have longer : lasting (c :: latest :: older) = c :: lasting (latest :: older) := by
        simp [lasting, still]
      simp [replacing, still, shown, longer, List.getLast?_cons, last]
    · have alone : lasting (c :: latest :: older) = [c] := by simp [lasting, still]
      simp [replacing, still, shown, alone]

end Condition

namespace TaskStatus
open ConditionCall

def call (s : TaskStatus) : ConditionCall → TaskStatus
  | .set c => s.setCondition c
  | .remove type => s.removeCondition type

def called (s : TaskStatus) (calls : List ConditionCall) : TaskStatus :=
  calls.foldl call { s with conditions := [] }

end TaskStatus

namespace ConditionCall
variable {type : String} {calls : List ConditionCall}

theorem standingSet (c : Condition) : standing type (calls ++ [set c]) =
    if c.type = type then c :: standing type calls else standing type calls := by
  by_cases same : c.type = type <;> simp [standing, given?, same]

theorem standingRemoved (removed : String) : standing type (calls ++ [remove removed]) =
    if removed = type then [] else standing type calls := by
  by_cases same : removed = type <;> simp [standing, List.filterMap_cons, given?, same]

def SetSince (type : String) : List ConditionCall → Prop :=
  Since (fun call => (given? type call).isSome) (· = remove type)

end ConditionCall

namespace TaskStatus
open ConditionCall

structure Told (calls : List ConditionCall) (s : TaskStatus) : Prop where
  distinct : (s.conditions.map Condition.type).Nodup
  present : ∀ type, (s.condition? type).isSome ↔ SetSince type calls
  shown : ∀ type, s.condition? type = Condition.shown (standing type calls)

variable {calls : List ConditionCall} {s : TaskStatus} {type : String} {c : Condition}

theorem Told.set (told : Told calls s) (c : Condition) : Told (calls ++ [.set c]) (s.setCondition c) where
  distinct := distinctReplaced c told.distinct
  present type := by
    rw [SetSince, sinceMore]
    by_cases same : c.type = type
    · subst same
      rw [conditionReplaced]
      exact iff_of_true rfl (.inl (by simp [given?]))
    · rw [conditionOther s (Ne.symm same), told.present]
      simp [given?, same, SetSince]
  shown type := by
    rw [standingSet]
    split
    · rename_i same
      subst same
      rw [conditionReplaced, Condition.shownCons, told.shown]
    · rename_i other
      rw [conditionOther s (Ne.symm other), told.shown]

theorem Told.removed (told : Told calls s) (removed : String) :
    Told (calls ++ [.remove removed]) (s.removeCondition removed) where
  distinct := distinctFiltered removed told.distinct
  present type := by
    rw [SetSince, sinceMore]
    by_cases same : removed = type
    · subst same
      rw [conditionRemoved]
      simp [given?]
    · rw [conditionSpared s (Ne.symm same), told.present]
      simp [given?, same, SetSince]
  shown type := by
    rw [standingRemoved]
    split
    · rename_i same
      subst same
      exact conditionRemoved s removed
    · rename_i other
      rw [conditionSpared s (Ne.symm other), told.shown]

theorem toldAll (s : TaskStatus) (calls : List ConditionCall) : Told calls (s.called calls) := by
  induction calls using List.reverseRecOn with
  | nil => exact ⟨.nil, fun type => iff_of_false nofun notSinceNothing, fun type => rfl⟩
  | append_singleton calls last ih =>
    have more : s.called (calls ++ [last]) = (s.called calls).call last := by simp [called]
    rw [more]
    cases last with
    | set c => exact ih.set c
    | remove removed => exact ih.removed removed

theorem conditionIff (distinct : (s.conditions.map Condition.type).Nodup) :
    s.condition? type = some c ↔ c ∈ s.conditions ∧ c.type = type := by
  constructor
  · intro found
    exact ⟨List.mem_of_find?_eq_some found, by simpa using List.find?_some found⟩
  · rintro ⟨inside, rfl⟩
    cases found : s.condition? c.type with
    | none =>
      have other := List.find?_eq_none.mp found c inside
      simp at other
    | some d =>
      have listed := List.mem_of_find?_eq_some found
      have same : d.type = c.type := by simpa using List.find?_some found
      rw [List.inj_on_of_nodup_map distinct listed inside same]

/-- After any history of calls no two conditions are of one type, and there is one of a type exactly if
one was set since the type was last removed. It is the one that was last set, but its time is that
of the first of all those set in a row with its status. -/
theorem conditionsTold (s : TaskStatus) (calls : List ConditionCall) :
    ((s.called calls).conditions.map Condition.type).Nodup ∧
    ∀ type, ((∃ c ∈ (s.called calls).conditions, c.type = type) ↔ SetSince type calls) ∧
      ∀ c ∈ (s.called calls).conditions, c.type = type → ∃ latest earliest,
        (standing type calls).head? = some latest ∧
        (Condition.lasting (standing type calls)).getLast? = some earliest ∧
        c = { latest with lastTransitionTime := earliest.lastTransitionTime } := by
  have told := toldAll s calls
  refine ⟨told.distinct, fun type => ⟨?_, fun c inside same => ?_⟩⟩
  · rw [← told.present, Option.isSome_iff_exists]
    exact exists_congr fun c => (conditionIff told.distinct).symm
  · have found := (conditionIff told.distinct).mpr ⟨inside, same⟩
    rw [told.shown] at found
    cases sets : standing type calls with
    | nil =>
      rw [sets] at found
      cases found
    | cons latest older =>
      obtain ⟨earliest, last, shown⟩ := Condition.shownSome latest older
      rw [sets, shown] at found
      exact ⟨latest, earliest, rfl, last, (Option.some.inj found).symm⟩

def marked (type : String) (status : ConditionStatus) (reason : String) (second : Int) : Condition :=
  ⟨type, status, reason, "", .ofNanoseconds (second * 1000000000)⟩

def waitedTwice : List ConditionCall := [
  .set (marked Condition.queued .true "AgentAtCapacity" 1),
  .set (marked Condition.ready .false "AgentAtCapacity" 1),
  .remove Condition.queued,
  .set (marked Condition.queued .true "RetryBackoff" 2),
  .set (marked Condition.ready .true "WorkloadRunning" 3),
  .set (marked Condition.queued .true "QuotaExceeded" 4)]

theorem waitedTwiceTold :
    marked Condition.queued .true "QuotaExceeded" 2 ∈ (fresh.called waitedTwice).conditions ∧
    SetSince Condition.queued waitedTwice ∧
    ∃ latest earliest, (standing Condition.queued waitedTwice).head? = some latest ∧
      (Condition.lasting (standing Condition.queued waitedTwice)).getLast? = some earliest ∧
      marked Condition.queued .true "QuotaExceeded" 2 =
        { latest with lastTransitionTime := earliest.lastTransitionTime } := by
  have inside : marked Condition.queued .true "QuotaExceeded" 2 ∈ (fresh.called waitedTwice).conditions := by
    decide +kernel
  obtain ⟨present, told⟩ := (conditionsTold fresh waitedTwice).2 Condition.queued
  exact ⟨inside, present.mp ⟨_, inside, rfl⟩, told _ inside rfl⟩

end TaskStatus
end Turnstile
