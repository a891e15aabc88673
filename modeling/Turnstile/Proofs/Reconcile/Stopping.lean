import Turnstile.Proofs.Reconcile.Rounds
import Turnstile.Proofs.Task.Conditions
import Turnstile.Proofs.Workload.Stray
/-! What becomes of a task that is asked to stop. Its next reconcile completes it and removes the
workload that it records. Nothing that comes later touches the task, and only the start of
another task makes a workload, one of its own name. -/
namespace Turnstile
open Reconcile

/-- Between the reconciles no task is written and no workload is made. -/
def Backend.Idles (b after : Backend) : Prop :=
  after.store.tasks = b.store.tasks ∧ after.workloads.Within b.workloads

namespace Round
variable {p : Round} {t : Task} {run : Key}

theorem stops (stored : p.before.store.get? .task p.key = some t) (active : t.isActive = true)
    (asked : t.stopRequested = true) : ∃ u, p.after.store.get? .task p.key = some u ∧
      u.wasStopped = true ∧ recorded? u = recorded? t ∧
      ∀ run, recorded? t = some run → p.after.workloads.records.get? run = none := by
  obtain ⟨outcome, -, visit⟩ := reconcileVisits p.reconciler p.now p.before p.key
  change Visit _ _ _ _ _ p.after at visit
  have active : t.phase.isTerminal = false := by simpa [Task.isActive] using active
  generalize p.after = after at visit ⊢
  cases visit with
  | gone absent =>
    rw [absent] at stored
    cases stored
  | ended there terminal =>
    rw [stored] at there
    cases there
    rw [active] at terminal
    cases terminal
  | observed there free | considered there free =>
    rw [stored] at there
    cases there
    rw [asked] at free
    cases free
  | stopped there =>
    rw [stored] at there
    cases there
    have own : t.key = p.key := p.before.store.tasks.keyed stored
    rw [← own] at stored ⊢
    have still : ((recorded? t).elim p.before (removed p.before)).store.get? .task t.key = some t := by
      cases recorded? t <;> exact stored
    obtain ⟨version, written, -⟩ := Backend.notedCount (stoppedStatus p.now) still
    refine ⟨_, written, ?_, rfl, fun run recorded => ?_⟩
    · obtain ⟨time, found⟩ := TaskStatus.conditionSet
        { t.status with phase := some .completed, completionTime := some p.now, retryAfter := none }
        (mark p.now Condition.stopped .true "UserStopped" stopMessage)
      have differ : Condition.stopped ≠ Condition.ready := by decide
      have shown : (t.withStatus version (t.changed (stoppedStatus p.now))).status.condition? Condition.stopped =
          some { mark p.now Condition.stopped .true "UserStopped" stopMessage with lastTransitionTime := time } :=
        (TaskStatus.conditionOther _ differ).trans found
      rw [Task.wasStopped, shown]
      rfl
    · rw [Backend.notedWorkloads, recorded]
      exact SortedMap.getEraseSame _ _

theorem keeps (stored : p.before.store.get? .task p.key = some t)
    (terminal : t.phase.isTerminal = true) : p.after = p.before := by
  obtain ⟨outcome, -, visit⟩ := reconcileVisits p.reconciler p.now p.before p.key
  change Visit _ _ _ _ _ p.after at visit
  generalize p.after = after at visit ⊢
  cases visit with
  | gone | ended => rfl
  | stopped there active | considered there _ active =>
    rw [stored] at there
    cases there
    rw [active] at terminal
    cases terminal
  | observed there _ running =>
    rw [stored] at there
    cases there
    rw [running] at terminal
    cases terminal

/-- The reconcile started its task, which has that run of its own recorded since. -/
def startsUnder (p : Round) (run : Key) : Prop :=
  p.starts p.key = true ∧ ∃ u, p.after.store.get? .task p.key = some u ∧ recorded? u = some run ∧
    run = p.key.run u.status.attempts

theorem makes (absent : p.before.workloads.records.get? run = none) :
    p.after.workloads.records.get? run = none ∨ p.startsUnder run := by
  rcases p.changed.within with within | ⟨t, u, before, idle, after, running⟩
  · exact .inl (within.absent absent)
  · have starts := startsRunning before after idle running
    obtain ⟨t', resolved, version, before', -, -, -, -, -, -, written, made⟩ := started starts
    have own : t'.key = p.key := p.before.store.tasks.keyed before'
    by_cases same : run = (nextRun t' resolved).key
    · subst same
      exact .inr ⟨starts, _, written, rfl, congrArg (Key.run · _) own⟩
    · rw [made]
      exact .inl ((Workloads.createOther same).trans (clearedWithin.absent absent))

end Round

/-- The workload that a task records is gone, unless another task was started under the name of
that workload. -/
def Released (log : List Round) (b : Backend) (t : Task) : Prop :=
  ∀ run, recorded? t = some run → b.workloads.records.get? run = none ∨
    ∃ p ∈ log, p.key ≠ t.key ∧ p.startsUnder run

namespace Released
variable {log : List Round} {b after : Backend} {t : Task} {p : Round}

theorem within (released : Released log b t) (within : after.workloads.Within b.workloads) :
    Released log after t := by
  intro run recorded
  exact (released run recorded).imp_left within.absent

theorem round (released : Released log p.before t) (other : p.key ≠ t.key) :
    Released (log ++ [p]) p.after t := by
  intro run recorded
  rcases released run recorded with absent | ⟨q, inside, rest⟩
  · exact (p.makes absent).imp_right fun starts => ⟨p, by simp, other, starts⟩
  · exact .inr ⟨q, List.mem_append_left _ inside, rest⟩

theorem own {attempt : UInt32} (released : Released log b t)
    (recorded : recorded? t = some (t.key.run attempt)) :
    b.workloads.records.get? (t.key.run attempt) = none := by
  rcases released _ recorded with absent | ⟨p, -, apart, -, u, -, -, same⟩
  · exact absent
  · exact absurd (Key.runSame same).1.symm apart

end Released

theorem Chronicle.stopped {first b : Backend} {log : List Round} {key : Key} {t : Task}
    (run : Chronicle Backend.Idles first log b) (stored : first.store.get? .task key = some t)
    (active : t.isActive = true) (asked : t.stopRequested = true) :
    (key ∉ log.map Round.key ∧ b.store.get? .task key = some t) ∨
    (key ∈ log.map Round.key ∧ ∃ u, b.store.get? .task key = some u ∧ u.wasStopped = true ∧
      recorded? u = recorded? t ∧ Released log b u) := by
  have own : t.key = key := first.store.tasks.keyed stored
  induction run with
  | start => exact .inl ⟨nofun, stored⟩
  | @between log b after past next ih =>
    have same : after.store.get? .task key = b.store.get? .task key :=
      congrArg (fun tasks => tasks.objects.get? key) next.1
    rcases ih with ⟨unseen, found⟩ | ⟨seen, u, found, stopped, recorded, released⟩
    · exact .inl ⟨unseen, same.trans found⟩
    · exact .inr ⟨seen, u, same.trans found, stopped, recorded, released.within next.2⟩
  | @round log b past r now k ih =>
    rw [List.map_append, List.mem_append]
    by_cases mine : key = k
    · subst mine
      refine .inr ⟨.inr (by simp), ?_⟩
      rcases ih with ⟨unseen, found⟩ | ⟨seen, u, found, stopped, recorded, released⟩
      · obtain ⟨u, there, stopped, same, gone⟩ := Round.stops (p := ⟨r, now, key, b⟩) found active asked
        exact ⟨u, there, stopped, same, fun run recorded => .inl (gone run (same ▸ recorded))⟩
      · have ended : u.phase.isTerminal = true := by
          rw [show u.phase = .completed by simpa using (Bool.and_eq_true_iff.mp stopped).1]
          rfl
        rw [Round.keeps (p := ⟨r, now, key, b⟩) found ended]
        refine ⟨u, found, stopped, recorded, fun run own => ?_⟩
        refine (released run own).imp_right ?_
        rintro ⟨q, inside, rest⟩
        exact ⟨q, List.mem_append_left _ inside, rest⟩
    · have apart : key ∉ [(⟨r, now, k, b⟩ : Round)].map Round.key := by simpa using mine
      have others := (Round.changed ⟨r, now, k, b⟩).others mine
      rcases ih with ⟨unseen, found⟩ | ⟨seen, u, found, stopped, recorded, released⟩
      · exact .inl ⟨not_or.mpr ⟨unseen, apart⟩, others.trans found⟩
      · have same : u.key = key := b.store.tasks.keyed found
        exact .inr ⟨.inl seen, u, others.trans found, stopped, recorded,
          Released.round (p := ⟨r, now, k, b⟩) released (by rw [same]; exact Ne.symm mine)⟩

end Turnstile
