import Turnstile.Proofs.Reconcile.Rounds
/-! How a reconcile ends. It always gives an outcome, which says whether the task is over, and it
leaves alone all but its own task and the runs of that task. -/
namespace Turnstile

namespace Reconcile
open Workloads

variable {r : Reconciler} {now : Instant} {b after : Backend} {t : Task} {key run : Key}
  {outcome : ReconcileOutcome}

section Runs

theorem clearedOther (foreign : ∀ attempt, run ≠ t.key.run attempt) :
    (clearedFor b t).workloads.records.get? run = b.workloads.records.get? run := by
  unfold clearedFor
  split
  · exact deleteOther (foreign _)
  · rfl

theorem Gate.runs (gate : Gate r now b t outcome after) (foreign : ∀ attempt, run ≠ t.key.run attempt) :
    after.workloads.records.get? run = b.workloads.records.get? run := by
  cases gate with
  | backingOff => rfl
  | blocked | crowded | overQuota => rw [Backend.notedWorkloads]
  | refused => rw [Backend.notedWorkloads, clearedOther foreign]
  | started =>
    rw [Backend.notedWorkloads]
    exact (createOther (foreign _)).trans (clearedOther foreign)

theorem Look.runs (look : Look r now b t outcome after) (unrecorded : recorded? t ≠ some run) :
    after.workloads.records.get? run = b.workloads.records.get? run := by
  have apart {own : Key} (recorded : recorded? t = some own) : run ≠ own := by
    rintro rfl
    exact unrecorded recorded
  cases look with
  | unrecorded => rw [Backend.notedWorkloads]
  | running recorded => exact statusOther (apart recorded)
  | vanished recorded | succeeded recorded | failed recorded =>
    rw [Backend.notedWorkloads]
    exact statusOther (apart recorded)
  | retried recorded =>
    refine (deleteOther (apart recorded)).trans ?_
    rw [Backend.notedWorkloads]
    exact statusOther (apart recorded)

theorem Visit.runs (visit : Visit r now b key outcome after) (foreign : ∀ attempt, run ≠ key.run attempt)
    (unrecorded : ∀ t, b.store.get? .task key = some t → recorded? t ≠ some run) :
    after.workloads.records.get? run = b.workloads.records.get? run := by
  cases visit with
  | gone | ended => rfl
  | @stopped t stored =>
    rw [Backend.notedWorkloads]
    have other := unrecorded t stored
    cases recorded : recorded? t with
    | none => rfl
    | some own =>
      refine deleteOther ?_
      rintro rfl
      exact other recorded
  | observed stored _ _ look => exact look.runs (unrecorded _ stored)
  | considered stored _ _ _ gate =>
    have own := b.store.tasks.keyed stored
    subst own
    exact gate.runs foreign

end Runs

section Outcome

def Tells (outcome : ReconcileOutcome) (after : Backend) (key : Key) : Prop :=
  (outcome = .done ∧ ∀ p, after.phase? key = some p → p.isTerminal = true) ∨
  (∃ delay p, outcome = .requeueAfter delay ∧ after.phase? key = some p ∧ p.isTerminal = false)

variable {p : Phase}

theorem tellsDone (found : after.phase? key = some p) (ended : p.isTerminal = true) : Tells .done after key := by
  refine .inl ⟨rfl, fun other there => ?_⟩
  cases found.symm.trans there
  exact ended

theorem tellsAgain {delay : Duration} (found : after.phase? key = some p) (active : p.isTerminal = false) :
    Tells (.requeueAfter delay) after key :=
  .inr ⟨delay, p, rfl, found, active⟩

theorem phaseStored (stored : b.store.get? .task t.key = some t) : b.phase? t.key = some t.phase := by
  rw [Backend.phase?, stored]
  rfl

theorem Gate.tells (gate : Gate r now b t outcome after) (stored : b.store.get? .task t.key = some t)
    (active : t.phase.isTerminal = false) : Tells outcome after t.key := by
  cases gate with
  | backingOff => exact tellsAgain (phaseStored stored) active
  | blocked => exact tellsAgain (Backend.notedPhase stored rfl) active
  | crowded | overQuota => exact tellsAgain (Backend.notedPhase stored rfl) rfl
  | refused =>
    have cleared : (clearedFor b t).store.get? .task t.key = some t := by
      rw [clearedStore]
      exact stored
    exact tellsAgain (Backend.notedPhase cleared rfl) active
  | started => exact tellsAgain (Backend.startedPhase stored _) rfl

theorem Look.tells (look : Look r now b t outcome after) (stored : b.store.get? .task t.key = some t)
    (running : t.phase = .running) : Tells outcome after t.key := by
  have there (own : Key) : (polled now b own).store.get? .task t.key = some t := stored
  cases look with
  | unrecorded => exact tellsDone (Backend.notedPhase stored rfl) rfl
  | vanished | succeeded | failed => exact tellsDone (Backend.notedPhase (there _) rfl) rfl
  | running => exact tellsAgain (phaseStored (there _)) (by rw [running]; rfl)
  | retried =>
    have removedPhase (after : Backend) (run : Key) : (removed after run).phase? t.key = after.phase? t.key := rfl
    refine tellsAgain (p := .queued) ?_ rfl
    rw [removedPhase]
    exact Backend.notedPhase (there _) rfl

theorem Visit.tells (visit : Visit r now b key outcome after) : Tells outcome after key := by
  cases visit with
  | gone absent => exact .inl ⟨rfl, fun p found => by rw [Backend.phase?, absent] at found; cases found⟩
  | @ended t stored terminal =>
    have own : t.key = key := b.store.tasks.keyed stored
    subst own
    exact tellsDone (phaseStored stored) terminal
  | @stopped t stored =>
    have own := b.store.tasks.keyed stored
    subst own
    have there : ((recorded? t).elim b (removed b)).store.get? .task t.key = some t := by
      cases recorded? t <;> exact stored
    exact tellsDone (Backend.notedPhase there rfl) rfl
  | observed stored _ running look =>
    have own := b.store.tasks.keyed stored
    subst own
    exact look.tells stored running
  | considered stored _ active _ gate =>
    have own := b.store.tasks.keyed stored
    subst own
    exact gate.tells stored active

theorem Tells.told (tells : Tells outcome after key) :
    (outcome = .done ↔ ∀ t, after.store.get? .task key = some t → t.phase = .completed ∨ t.phase = .failed) ∧
    ((∃ delay, outcome = .requeueAfter delay) ↔
      ∃ t, after.store.get? .task key = some t ∧ t.phase ≠ .completed ∧ t.phase ≠ .failed) := by
  have ends (p : Phase) : p.isTerminal = true ↔ p = .completed ∨ p = .failed := by
    cases p <;> simp [Phase.isTerminal]
  rcases tells with ⟨rfl, past⟩ | ⟨delay, p, rfl, found, active⟩
  · have ended (t : Task) (stored : after.store.get? .task key = some t) :
        t.phase = .completed ∨ t.phase = .failed :=
      (ends _).mp (past _ (by rw [Backend.phase?, stored]; rfl))
    refine ⟨iff_of_true rfl ended, iff_of_false (by simp) ?_⟩
    rintro ⟨t, stored, going⟩
    exact not_or.mpr going (ended t stored)
  · obtain ⟨t, stored, rfl⟩ := Option.map_eq_some_iff.mp found
    have going : ¬ (t.phase = .completed ∨ t.phase = .failed) := by
      rw [← ends, active]
      exact Bool.false_ne_true
    exact ⟨iff_of_false (by simp) fun ended => going (ended t stored),
      iff_of_true ⟨delay, rfl⟩ ⟨t, stored, not_or.mp going⟩⟩

end Outcome

end Reconcile
open Reconcile

/-- A reconcile gives an outcome whatever is stored. It is done exactly if its task is gone or over,
and will look again exactly if the task is neither. Of what is stored only the status of the task and
its version change, and of the workloads only its runs and the one that it records. -/
theorem reconcileEnds (r : Reconciler) (now : Instant) (b : Backend) (key : Key) :
    let after := ((r.reconcile now key).run now b).2
    (∃ outcome, ((r.reconcile now key).run now b).1 = .ok outcome ∧
      (outcome = .done ↔ ∀ t, after.store.get? .task key = some t → t.phase = .completed ∨ t.phase = .failed) ∧
      ((∃ delay, outcome = .requeueAfter delay) ↔
        ∃ t, after.store.get? .task key = some t ∧ t.phase ≠ .completed ∧ t.phase ≠ .failed)) ∧
    (∀ k, k ≠ .task → after.store.collection k = b.store.collection k) ∧
    (∀ other, other ≠ key → after.store.get? .task other = b.store.get? .task other) ∧
    (∃ version status,
      after.store.get? .task key = (b.store.get? .task key).map (·.withStatus version status)) ∧
    ∀ run, (∀ attempt, run ≠ key.run attempt) →
      (∀ t, b.store.get? .task key = some t → recorded? t ≠ some run) →
      after.workloads.records.get? run = b.workloads.records.get? run := by
  obtain ⟨outcome, given, visit⟩ := reconcileVisits r now b key
  have changed := visit.changed
  dsimp only
  refine ⟨⟨outcome, given, visit.tells.told⟩, fun k other => ?_, fun other apart => changed.others apart, ?_,
    fun run => visit.runs⟩
  · cases k with
    | task => exact absurd rfl other
    | agent => exact changed.agents
    | template => exact changed.templates
    | trigger => exact changed.triggers
    | secret => exact changed.secrets
  · cases stored : b.store.get? .task key with
    | none => exact ⟨0, .fresh, changed.absent stored⟩
    | some t =>
      rcases changed.found stored with ⟨same, -⟩ | ⟨version, change, -, written⟩
      · exact ⟨t.metadata.resourceVersion, t.status, same⟩
      · exact ⟨version, t.changed change, written⟩

end Turnstile
