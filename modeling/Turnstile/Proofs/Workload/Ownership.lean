import Turnstile.Proofs.Task.History
import Turnstile.Proofs.Workload.Live
/-! Whose workloads are. Every live workload is the run that one running task records,
through every way in which a reconcile makes, leaves and removes them. -/
namespace Turnstile

namespace TaskStatus

def Names (s : TaskStatus) (key : Key) : Prop :=
  s.workloadName = none ∨
    (s.workloadName = some (WorkloadSpec.nameFor key s.attempts) ∧ s.workloadNamespace = some key.ns)

def Owns (s : TaskStatus) (key run : Key) : Prop :=
  s.phase.getD .pending = .running ∧ run = key.run s.attempts

end TaskStatus

namespace Reconcile
variable {task : Task} {run : Key}

theorem recordedNamed (names : task.status.Names task.key) (recorded : recorded? task = some run) :
    run = task.key.run task.status.attempts := by
  unfold recorded? at recorded
  rcases names with none | ⟨name, ns⟩
  · rw [none] at recorded
    cases recorded
  · rw [name, ns] at recorded
    cases recorded
    rfl

theorem recordedRunning (coherent : Coherent task.key task.status) (running : task.phase = .running) :
    recorded? task = some (task.key.run task.status.attempts) := by
  have shape := coherent.underway running
  unfold recorded?
  rw [shape.workload, shape.place]
  rfl

end Reconcile

namespace Backend
variable {b after : Backend} {now : Instant} {task : Task} {change : TaskStatus → TaskStatus}

structure Owned (b : Backend) : Prop where
  coherent : b.Coherent
  named : ∀ key t, b.store.get? .task key = some t → t.status.Names key
  owned : ∀ run, b.workloads.Live run →
    ∃ key t, b.store.get? .task key = some t ∧ t.status.Owns key run

theorem clericalWorkloads {c : Call} (clerical : c.Clerical) :
    (b.perform now c).2.workloads = b.workloads := by
  cases c with
  | createWorkload | workloadStatus | deleteWorkload => exact clerical.elim
  | get | list | create | update | updateStatus | delete => rfl

theorem Owned.performed {c : Call} (h : b.Owned) (clerical : c.Clerical) :
    (b.perform now c).2.Owned where
  coherent := h.coherent.perform clerical.leaves
  named key t found := by
    rcases performLeaves clerical.leaves found with ⟨-, fresh⟩ | ⟨old, before, status⟩
    · rw [fresh]
      exact .inl rfl
    · rw [status]
      exact h.named key old before
  owned run live := by
    rw [clericalWorkloads clerical] at live
    obtain ⟨key, t, stored, owns⟩ := h.owned run live
    have spared : c ≠ .delete .task key := by
      rintro rfl
      exact clerical.elim
    obtain ⟨u, found, status⟩ := performKeeps clerical.leaves spared stored
    rw [← status] at owns
    exact ⟨key, u, found, owns⟩

theorem Owned.ran {α : Type} {p : Procedure α} (h : b.Owned) (only : p.Only Call.Clerical) :
    (p.run now b).2.Owned :=
  only.runKeeps (fun _ _ clerical owned => owned.performed clerical) h

theorem Owned.fewer (h : b.Owned) (same : after.store = b.store)
    (live : ∀ run, after.workloads.Live run → b.workloads.Live run) : after.Owned where
  coherent := h.coherent.sameTasks (by rw [same])
  named := by
    rw [same]
    exact h.named
  owned run alive := by
    rw [same]
    exact h.owned run (live run alive)

theorem Owned.noted (h : b.Owned) (stored : b.store.get? .task task.key = some task)
    (coherent : after.Coherent) (wrote : after.store = (b.noted task change).store)
    (names : (task.changed change).Names task.key)
    (live : ∀ run, after.workloads.Live run → (task.changed change).Owns task.key run ∨
      (b.workloads.Live run ∧ ¬ task.status.Owns task.key run)) : after.Owned := by
  obtain ⟨version, own, -⟩ := notedCount change stored
  rw [← wrote] at own
  have others : ∀ key, key ≠ task.key → after.store.get? .task key = b.store.get? .task key := by
    intro key other
    rw [wrote]
    exact notedOther stored other
  refine ⟨coherent, fun key t found => ?_, fun run alive => ?_⟩
  · by_cases same : key = task.key
    · subst same
      rw [own] at found
      cases found
      exact names
    · rw [others key same] at found
      exact h.named key t found
  · rcases live run alive with owns | ⟨before, free⟩
    · exact ⟨task.key, _, own, owns⟩
    · obtain ⟨key, t, there, owns⟩ := h.owned run before
      -- the task that was noted does not own this run, so its owner is untouched
      have other : key ≠ task.key := by
        rintro rfl
        rw [stored] at there
        cases there
        exact free owns
      exact ⟨key, t, (others key other).trans there, owns⟩

end Backend

namespace Reconcile
variable {r : Reconciler} {now : Instant} {b after : Backend} {key : Key} {task : Task}
  {outcome : ReconcileOutcome}

theorem clearedLive {run : Key} (live : (clearedFor b task).workloads.Live run) : b.workloads.Live run := by
  unfold clearedFor at live
  split at live
  · exact (Workloads.deleteLive live).2
  · exact live

theorem Gate.owned (gate : Gate r now b task outcome after) (h : b.Owned) (coherent : after.Coherent)
    (stored : b.store.get? .task task.key = some task) (idle : task.phase ≠ .running) : after.Owned := by
  have names := h.named task.key task stored
  have free : ∀ run, ¬ task.status.Owns task.key run := fun run owns => idle owns.1
  cases gate with
  | backingOff => exact h
  | blocked | crowded | overQuota =>
    refine h.noted stored coherent rfl names fun run live => .inr ⟨?_, free run⟩
    rwa [Backend.notedWorkloads] at live
  | refused =>
    refine h.noted stored coherent (Backend.notedStore clearedStore) names fun run live => ?_
    rw [Backend.notedWorkloads] at live
    exact .inr ⟨clearedLive live, free run⟩
  | @started resolved =>
    refine h.noted stored coherent (Backend.notedStore clearedStore) (.inr ⟨rfl, rfl⟩) fun run live => ?_
    rw [Backend.notedWorkloads] at live
    rcases Workloads.createLive live with before | new
    · exact .inr ⟨clearedLive before, free run⟩
    · exact .inl ⟨rfl, new⟩

theorem Look.owned (look : Look r now b task outcome after) (h : b.Owned) (coherent : after.Coherent)
    (stored : b.store.get? .task task.key = some task) (running : task.phase = .running) : after.Owned := by
  have names := h.named task.key task stored
  have own := recordedRunning (h.coherent task.key task stored) running
  -- a run that a look does not show live is owned no more
  have seen : ∀ {run}, recorded? task = some run →
      (∀ observed, (b.workloads.status now run).1 = some observed → observed.state.isLive = false) →
      ∀ other, (polled now b run).workloads.Live other →
        b.workloads.Live other ∧ ¬ task.status.Owns task.key other := by
    intro run recorded ended other live
    obtain ⟨before, shown⟩ := Workloads.statusLive live
    refine ⟨before, fun owns => ?_⟩
    have same : other = run := by
      rw [own] at recorded
      exact owns.2.trans (Option.some.inj recorded)
    obtain ⟨observed, found, alive⟩ := shown same
    rw [ended observed found] at alive
    cases alive
  cases look with
  | unrecorded nothing =>
    rw [own] at nothing
    cases nothing
  | running => exact h.fewer rfl fun run live => (Workloads.statusLive live).1
  | @vanished run recorded absent =>
    refine h.noted stored coherent (Backend.notedStore rfl) names fun other live => .inr ?_
    rw [Backend.notedWorkloads] at live
    refine seen recorded (fun observed found => ?_) other live
    rw [absent] at found
    cases found
  | @succeeded run observed recorded found ended | @failed run observed recorded found ended =>
    refine h.noted stored coherent (Backend.notedStore rfl) names fun other live => .inr ?_
    rw [Backend.notedWorkloads] at live
    refine seen recorded (fun shown there => ?_) other live
    rw [found] at there
    cases there
    rw [ended]
    rfl
  | @retried run observed delay recorded found ended =>
    refine h.noted stored coherent (Backend.notedStore rfl) (.inl rfl) fun other live => .inr ?_
    have polled := (Workloads.deleteLive live).2
    rw [Backend.notedWorkloads] at polled
    refine seen recorded (fun shown there => ?_) other polled
    rw [found] at there
    cases there
    rw [ended]
    rfl

theorem Visit.owned (visit : Visit r now b key outcome after) (h : b.Owned) : after.Owned := by
  have coherent := visit.coherent h.coherent
  have own : ∀ {task}, b.store.get? .task key = some task → b.store.get? .task task.key = some task := by
    intro task stored
    rw [show task.key = key from b.store.tasks.keyed stored]
    exact stored
  cases visit with
  | gone | ended => exact h
  | observed stored free running look => exact look.owned h coherent (own stored) running
  | considered stored free active idle gate => exact gate.owned h coherent (own stored) idle
  | @stopped task there active asked =>
    have stored := own there
    have names := h.named task.key task stored
    have recorded : task.phase = .running → recorded? task = some (task.key.run task.status.attempts) :=
      recordedRunning (h.coherent task.key task stored)
    cases run : recorded? task with
    | none =>
      rw [run] at coherent
      refine h.noted stored coherent rfl names fun other live => .inr ⟨?_, fun owns => ?_⟩
      · rwa [Backend.notedWorkloads] at live
      · rw [recorded owns.1] at run
        cases run
    | some run' =>
      rw [run] at coherent
      refine h.noted stored coherent (Backend.notedStore rfl) names fun other live => .inr ?_
      rw [Backend.notedWorkloads] at live
      obtain ⟨different, before⟩ := Workloads.deleteLive live
      refine ⟨before, fun owns => different ?_⟩
      rw [recorded owns.1] at run
      exact owns.2.trans (Option.some.inj run)

end Reconcile

namespace Backend
open Reconcile

/-- One thing that happens while tasks begin fresh and none is deleted: only reconciles
write their statuses and make workloads, and a workload that ends stays ended. -/
inductive Happening : Backend → Backend → Prop where
  | written (b : Backend) (now : Instant) (c : Call) (clerical : c.Clerical) :
      Happening b (b.perform now c).2
  | stopped (b : Backend) (now : Instant) (key : Key) : Happening b ((Task.requestStop key).run now b).2
  | delivered (b : Backend) (now : Instant) (registry : Registry) (sources : SecretSources)
      (names : Nat → String) (engine : FilterEngine) (request : WebhookRequest) :
      Happening b ((Webhook.handle registry sources names now engine request).1.run now b).2
  | synced (b : Backend) (now : Instant) (base : String) (registry : Registry) (key : Key) :
      Happening b ((TriggerController.sync base registry key).run now b).2
  | resynced (b : Backend) (now : Instant) (base : String) (registry : Registry) :
      Happening b ((TriggerController.resync base registry).run now b).2
  | finished (b : Backend) (run : Key) (status : WorkloadStatus) (ended : status.state.isLive = false) :
      Happening b { b with workloads := (b.workloads.finish run status).2 }
  | evicted (b : Backend) (run : Key) : Happening b { b with workloads := (b.workloads.evict run).2 }
  | reconciled (b : Backend) (r : Reconciler) (now : Instant) (key : Key) :
      Happening b ((r.reconcile now key).run now b).2

inductive Lived : Backend → Prop where
  | start {b : Backend} (empty : b.store = .empty) (idle : b.workloads.records = .empty) : Lived b
  | happened {b after : Backend} (past : Lived b) (next : Happening b after) : Lived after

variable {b after : Backend}

theorem Happening.owned (next : Happening b after) (h : b.Owned) : after.Owned := by
  cases next with
  | written now c clerical => exact h.performed clerical
  | stopped now key => exact h.ran (Task.stopClerical key _)
  | delivered => exact h.ran (Webhook.handleClerical _ _ _ _ _ _)
  | synced => exact h.ran (TriggerController.syncClerical _ _ _)
  | resynced => exact h.ran (TriggerController.resyncClerical _ _)
  | finished run status ended => exact h.fewer rfl fun _ live => Workloads.finishLive ended live
  | evicted run => exact h.fewer rfl fun _ live => (Workloads.deleteLive live).2
  | reconciled r now key =>
    obtain ⟨outcome, -, visit⟩ := reconcileVisits r now b key
    exact visit.owned h

theorem Lived.owned (past : Lived b) : b.Owned := by
  induction past with
  | start empty idle =>
    refine ⟨Coherent.empty empty, fun key t stored => ?_, fun run live => ?_⟩
    · rw [empty] at stored
      cases stored
    · obtain ⟨record, there, -⟩ := live
      rw [idle] at there
      cases there
  | happened _ next ih => exact next.owned ih

theorem Owned.recordedSame (h : b.Owned) {key other run : Key} {t u : Task}
    (first : b.store.get? .task key = some t) (second : b.store.get? .task other = some u)
    (one : recorded? t = some run) (two : recorded? u = some run) : key = other := by
  have named : ∀ {key t}, b.store.get? .task key = some t → recorded? t = some run →
      run = key.run t.status.attempts := by
    intro key t stored recorded
    have same : t.key = key := b.store.tasks.keyed stored
    subst same
    exact recordedNamed (h.named t.key t stored) recorded
  exact (Key.runSame ((named first one).symm.trans (named second two))).1

/-- Whatever happened since there was nothing: each live workload is the one that a
running task records and no other does, no two tasks record the same one, and no run of
a task that does not run is live. -/
theorem liveOwned (past : Lived b) :
    (∀ run ∈ b.workloads.running, ∃ key t, b.store.get? .task key = some t ∧ t.phase = .running ∧
      recorded? t = some run ∧
      ∀ other u, b.store.get? .task other = some u → recorded? u = some run → other = key) ∧
    (∀ key other t u run, b.store.get? .task key = some t → b.store.get? .task other = some u →
      recorded? t = some run → recorded? u = some run → key = other) ∧
    (∀ key t, b.store.get? .task key = some t → t.phase ≠ .running →
      ∀ attempt, workloadKey t attempt ∉ b.workloads.running) := by
  have h := past.owned
  refine ⟨fun run live => ?_, fun key other t u run => h.recordedSame, fun key t stored idle attempt live => ?_⟩
  · obtain ⟨key, t, stored, running, own⟩ := h.owned run (Workloads.liveIff.mpr live)
    have same : t.key = key := b.store.tasks.keyed stored
    have recorded : recorded? t = some run := by
      subst same
      rw [own]
      exact recordedRunning (h.coherent t.key t stored) running
    exact ⟨key, t, stored, running, recorded,
      fun other u there names => h.recordedSame there stored names recorded⟩
  · obtain ⟨other, u, there, running, own⟩ := h.owned _ (Workloads.liveIff.mpr live)
    have same : t.key = key := b.store.tasks.keyed stored
    have one : t.key.run attempt = other.run u.status.attempts := own
    rw [← (Key.runSame one).1, same, stored] at there
    cases there
    exact idle running

theorem firstRunLived (now : Instant) (agent task : Key) : Lived (firstRun now agent task) :=
  .happened (.happened (.happened (.start rfl rfl)
    (.written _ now (.create .agent (Agent.bare agent none)) trivial))
    (.written _ now (.create .task (Task.bare task agent.name)) rfl))
    (.reconciled _ Reconciler.bare now task)

theorem firstRunOwned : ∃ key t,
    (firstRun default ⟨"ns", "agent"⟩ ⟨"ns", "task"⟩).store.get? .task key = some t ∧
    recorded? t = some ⟨"ns", "task-1"⟩ := by
  have live : (⟨"ns", "task-1"⟩ : Key) ∈
      (firstRun default ⟨"ns", "agent"⟩ ⟨"ns", "task"⟩).workloads.running := by decide +kernel
  obtain ⟨key, t, stored, -, recorded, -⟩ := (liveOwned (firstRunLived _ _ _)).1 _ live
  exact ⟨key, t, stored, recorded⟩

end Backend
end Turnstile
