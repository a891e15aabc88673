import Turnstile.Proofs.Reconcile.Noted
import Turnstile.Proofs.Reconcile.Visit
import Turnstile.Proofs.Task.Coherence
import Turnstile.Proofs.Webhook.Writes
/-! The life of a store from its beginning. Users and webhooks write anything but
statuses, workloads end and vanish, and reconciles come at any time; every
status that is stored on the way is coherent. -/
namespace Turnstile

namespace Backend

def Coherent (b : Backend) : Prop :=
  ∀ key task, b.store.get? .task key = some task → Turnstile.Coherent key task.status

/-- One thing that happens to a backend. -/
inductive Move : Backend → Backend → Prop where
  | written (b : Backend) (now : Instant) (c : Call) (leaves : c.LeavesStatus) :
      Move b (b.perform now c).2
  | finished (b : Backend) (run : Key) (status : WorkloadStatus) :
      Move b { b with workloads := (b.workloads.finish run status).2 }
  | evicted (b : Backend) (run : Key) :
      Move b { b with workloads := (b.workloads.evict run).2 }
  | delivered (b : Backend) (now : Instant) (registry : Registry) (sources : SecretSources)
      (names : Nat → String) (engine : FilterEngine) (request : WebhookRequest) :
      Move b ((Webhook.handle registry sources names now engine request).1.run now b).2
  | synced (b : Backend) (now : Instant) (base : String) (registry : Registry) (key : Key) :
      Move b ((TriggerController.sync base registry key).run now b).2
  | resynced (b : Backend) (now : Instant) (base : String) (registry : Registry) :
      Move b ((TriggerController.resync base registry).run now b).2
  | reconciled (b : Backend) (r : Reconciler) (now : Instant) (key : Key) :
      Move b ((r.reconcile now key).run now b).2

inductive Reachable : Backend → Prop where
  | start {b : Backend} (empty : b.store = .empty) : Reachable b
  | move {b after : Backend} (past : Reachable b) (next : Move b after) : Reachable after

namespace Coherent
variable {b : Backend} {now : Instant}

theorem empty (nothing : b.store = .empty) : b.Coherent := by
  intro key task stored
  rw [nothing] at stored
  cases stored

theorem sameTasks {after : Backend} (h : b.Coherent) (same : after.store.tasks = b.store.tasks) :
    after.Coherent := by
  intro key task stored
  change after.store.tasks.objects.get? key = some task at stored
  rw [same] at stored
  exact h key task stored

theorem perform {c : Call} (h : b.Coherent) (leaves : c.LeavesStatus) :
    (b.perform now c).2.Coherent := by
  intro key task stored
  rcases Backend.performLeaves leaves stored with ⟨-, fresh⟩ | ⟨old, before, same⟩
  · rw [fresh]
    exact Turnstile.Coherent.fresh key
  · rw [same]
    exact h key old before

theorem run {α : Type} {p : Procedure α} (h : b.Coherent) (only : p.Only Call.LeavesStatus) :
    (p.run now b).2.Coherent :=
  only.runKeeps (fun _ _ leaves before => Coherent.perform before leaves) h

theorem noted {task : Task} {change : TaskStatus → TaskStatus} (h : b.Coherent)
    (stored : b.store.get? .task task.key = some task)
    (coherent : Turnstile.Coherent task.key (change task.status)) :
    (b.noted task change).Coherent := by
  rcases notedTasks change stored with ⟨-, unchanged⟩ | ⟨version, written⟩
  · rw [unchanged]
    exact h
  · intro key found after
    change (b.noted task change).store.tasks.objects.get? key = some found at after
    rw [written] at after
    rcases Collection.putFound after with ⟨rfl, rfl⟩ | ⟨-, before⟩
    · exact coherent.seen task.metadata.generation
    · exact h key found before

end Coherent
end Backend

namespace Reconcile
variable {r : Reconciler} {now : Instant} {b after : Backend} {task : Task} {key : Key}
  {outcome : ReconcileOutcome}

theorem Gate.coherent (gate : Gate r now b task outcome after) (h : b.Coherent)
    (stored : b.store.get? .task task.key = some task)
    (active : task.phase.isTerminal = false) (idle : task.phase ≠ .running) : after.Coherent := by
  have own : Coherent task.key task.status := h task.key task stored
  have cleared : (clearedFor b task).Coherent := h.sameTasks (by rw [clearedStore])
  have clearedStored : (clearedFor b task).store.get? .task task.key = some task := by
    rw [clearedStore]
    exact stored
  cases gate with
  | backingOff => exact h
  | blocked => exact h.noted stored (own.blocked _)
  | crowded => exact h.noted stored (own.queued active idle _)
  | overQuota => exact h.noted stored (own.queued active idle _)
  | refused => exact cleared.noted clearedStored (own.blocked _)
  | @started resolved =>
    have launched : (created now (clearedFor b task) (nextRun task resolved)).Coherent :=
      cleared.sameTasks rfl
    exact launched.noted clearedStored (own.running active idle rfl rfl)

theorem Look.coherent (look : Look r now b task outcome after) (h : b.Coherent)
    (stored : b.store.get? .task task.key = some task) (running : task.phase = .running) :
    after.Coherent := by
  have own : Coherent task.key task.status := h task.key task stored
  have seen : ∀ run, (polled now b run).Coherent := fun run => h.sameTasks rfl
  cases look with
  | unrecorded => exact h.noted stored (own.failed running _ _ _)
  | vanished => exact (seen _).noted stored (own.failed running _ _ _)
  | running => exact seen _
  | succeeded => exact (seen _).noted stored (own.completed running _)
  | retried _ _ _ again =>
    exact ((seen _).noted stored (own.retried running again _ _)).sameTasks rfl
  | failed => exact (seen _).noted stored (own.failed running _ _ _)

theorem Visit.coherent (visit : Visit r now b key outcome after) (h : b.Coherent) :
    after.Coherent := by
  have own : ∀ {task}, b.store.get? .task key = some task → b.store.get? .task task.key = some task := by
    intro task stored
    have same : task.key = key := b.store.tasks.keyed stored
    rw [same]
    exact stored
  cases visit with
  | gone => exact h
  | ended => exact h
  | @stopped task stored active asked =>
    have coherent : Turnstile.Coherent task.key (stoppedStatus now task.status) :=
      (h task.key task (own stored)).stopped active
    cases recorded? task with
    | none => exact h.noted (own stored) coherent
    | some run => exact Backend.Coherent.noted (b := removed b run) h (own stored) coherent
  | observed stored free running look => exact look.coherent h (own stored) running
  | considered stored free active idle gate => exact gate.coherent h (own stored) active idle

end Reconcile

namespace Backend

theorem Move.coherent {b after : Backend} (move : Move b after) (h : b.Coherent) : after.Coherent := by
  cases move with
  | written now c leaves => exact h.perform leaves
  | finished => exact h.sameTasks rfl
  | evicted => exact h.sameTasks rfl
  | delivered => exact h.run (Webhook.handleLeavesStatus _ _ _ _ _ _)
  | synced => exact h.run (TriggerController.syncLeavesStatus _ _ _)
  | resynced => exact h.run (TriggerController.resyncLeavesStatus _ _)
  | reconciled r now key =>
    obtain ⟨outcome, -, visit⟩ := Reconcile.reconcileVisits r now b key
    exact visit.coherent h

/-- Whatever happened to a store since it was empty, its tasks are coherent. -/
theorem reachableCoherent {b : Backend} (past : Reachable b) : b.Coherent := by
  induction past with
  | start empty => exact Coherent.empty empty
  | move past next ih => exact next.coherent ih

end Backend

namespace Backend

def firstRun (now : Instant) (agent task : Key) : Backend :=
  ((Reconciler.bare.reconcile now task).run now
    ((empty.perform now (.create .agent (Agent.bare agent none))).2.perform now
      (.create .task (Task.bare task agent.name))).2).2

theorem firstRunReachable (now : Instant) (agent task : Key) : Reachable (firstRun now agent task) :=
  .move (.move (.move (.start rfl) (.written _ now (.create .agent (Agent.bare agent none)) trivial))
    (.written _ now (.create .task (Task.bare task agent.name)) rfl))
    (.reconciled _ Reconciler.bare now task)

theorem firstRunCoherent :
    ((firstRun default ⟨"ns", "agent"⟩ ⟨"ns", "task"⟩).store.get? .task ⟨"ns", "task"⟩).map Task.phase =
      some .running ∧
    (firstRun default ⟨"ns", "agent"⟩ ⟨"ns", "task"⟩).Coherent :=
  ⟨by decide +kernel, reachableCoherent (firstRunReachable _ _ _)⟩

end Backend
end Turnstile
