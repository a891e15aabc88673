import Turnstile.Reconcile.Status
/-! The conditions of a status. One that is set is found as it was given, but for the time of its last
transition, and setting it again changes nothing. So a task that waits is told why it waits, and
told the same again it keeps its status. -/
namespace Turnstile

def Condition.replacing (c : Condition) : Option Condition → Condition
  | some old => if old.status = c.status then { c with lastTransitionTime := old.lastTransitionTime } else c
  | none => c

namespace TaskStatus

theorem conditionReplaced (s : TaskStatus) (c : Condition) :
    (s.setCondition c).condition? c.type = some (c.replacing (s.condition? c.type)) := by
  unfold setCondition condition?
  induction s.conditions with
  | nil => simp [replaceCondition, Condition.replacing]
  | cons old rest ih =>
    unfold replaceCondition
    by_cases same : old.type = c.type
    · by_cases still : old.status = c.status <;> simp [same, still, Condition.replacing]
    · simpa [same] using ih

theorem conditionSet (s : TaskStatus) (c : Condition) : ∃ time,
    (s.setCondition c).condition? c.type = some { c with lastTransitionTime := time } := by
  rw [conditionReplaced]
  unfold Condition.replacing
  split
  · rename_i old _
    split
    · exact ⟨old.lastTransitionTime, rfl⟩
    · exact ⟨c.lastTransitionTime, rfl⟩
  · exact ⟨c.lastTransitionTime, rfl⟩

theorem conditionOther (s : TaskStatus) {c : Condition} {type : String} (other : type ≠ c.type) :
    (s.setCondition c).condition? type = s.condition? type := by
  unfold setCondition condition?
  induction s.conditions with
  | nil => simp [replaceCondition, other.symm]
  | cons old rest ih =>
    unfold replaceCondition
    by_cases same : old.type = c.type
    · by_cases still : old.status = c.status <;> simp [same, still, other.symm]
    · simp only [same, beq_iff_eq, if_false, List.find?_cons]
      rw [ih]

theorem conditionRemoved (s : TaskStatus) (type : String) : (s.removeCondition type).condition? type = none := by
  unfold removeCondition condition?
  rw [List.find?_eq_none]
  intro c inside
  have kept := (List.mem_filter.mp inside).2
  simpa using kept

theorem conditionSpared (s : TaskStatus) {removed type : String} (other : type ≠ removed) :
    (s.removeCondition removed).condition? type = s.condition? type := by
  unfold removeCondition condition?
  rw [List.find?_filter]
  congr 1
  funext c
  by_cases same : c.type = type
  · simp [same, other]
  · simp [same]

theorem setNothing {s : TaskStatus} {c : Condition} : s.setCondition c = s ↔
    ∃ time, s.condition? c.type = some { c with lastTransitionTime := time } := by
  have whole : s.setCondition c = s ↔ replaceCondition c s.conditions = s.conditions := by
    obtain ⟨⟩ := s
    simp [setCondition]
  rw [whole]
  unfold condition?
  induction s.conditions with
  | nil => simp [replaceCondition]
  | cons old rest ih =>
    obtain ⟨type, status, reason, message, time⟩ := old
    obtain ⟨mine, next, cause, text, last⟩ := c
    by_cases same : type = mine
    · by_cases still : status = next
      · simp only [replaceCondition, same, still, beq_self_eq_true, if_true, List.find?_cons_of_pos,
          List.cons.injEq, and_true, Option.some.injEq, Condition.mk.injEq, true_and]
        exact ⟨fun shown => ⟨time, shown.1.symm, shown.2.symm, rfl⟩,
          fun ⟨_, cause, text, _⟩ => ⟨cause.symm, text.symm⟩⟩
      · simp [replaceCondition, same, still, Ne.symm still]
    · simpa [replaceCondition, same] using ih

end TaskStatus

namespace Reconcile
variable {now : Instant} {s : TaskStatus} {cause : Block} {wait : Wait}

def Shows (s : TaskStatus) (type : String) (status : ConditionStatus) (reason message : String) : Prop :=
  ∃ time, s.condition? type = some ⟨type, status, reason, message, time⟩

theorem blockedShows (now : Instant) (s : TaskStatus) (phase : Phase) (cause : Block) :
    Shows (blockedStatus now phase cause s) Condition.ready .false cause.reason cause.message :=
  TaskStatus.conditionSet _ (mark now Condition.ready .false cause.reason cause.message)

theorem queuedShows (now : Instant) (s : TaskStatus) (wait : Wait) :
    Shows (queuedStatus now wait s) Condition.queued .true wait.reason wait.message ∧
      Shows (queuedStatus now wait s) Condition.ready .false wait.reason wait.message := by
  have apart : Condition.queued ≠ Condition.ready := by decide
  obtain ⟨time, set⟩ := TaskStatus.conditionSet { s with phase := some .queued, agent := some wait.agent.key }
    (mark now Condition.queued .true wait.reason wait.message)
  exact ⟨⟨time, (TaskStatus.conditionOther _ apart).trans set⟩, TaskStatus.conditionSet _
    (mark now Condition.ready .false wait.reason wait.message)⟩

theorem blockedAgain {phase : Phase} (same : s.phase = some phase)
    (ready : Shows s Condition.ready .false cause.reason cause.message) :
    blockedStatus now phase cause s = s := by
  have kept : { s with phase := some phase } = s := by rw [← same]
  rw [blockedStatus, kept]
  exact TaskStatus.setNothing.mpr ready

theorem queuedAgain (phase : s.phase = some .queued) (agent : s.agent = some wait.agent.key)
    (queued : Shows s Condition.queued .true wait.reason wait.message)
    (ready : Shows s Condition.ready .false wait.reason wait.message) : queuedStatus now wait s = s := by
  have kept : { s with phase := some .queued, agent := some wait.agent.key } = s := by rw [← phase, ← agent]
  have first : s.setCondition (mark now Condition.queued .true wait.reason wait.message) = s :=
    TaskStatus.setNothing.mpr queued
  rw [queuedStatus, kept, first]
  exact TaskStatus.setNothing.mpr ready

end Reconcile
end Turnstile
