import Turnstile.Reconcile.Basic
import Turnstile.Proofs.Store
/-! Statuses that are noted in a store. The task keeps all but its status and
version, and nothing else in the backend changes but the record of changes. -/
namespace Turnstile

def Task.changed (task : Task) (change : TaskStatus → TaskStatus) : TaskStatus :=
  { change task.status with observedGeneration := task.metadata.generation }

def Backend.noted (b : Backend) (task : Task) (change : TaskStatus → TaskStatus) : Backend :=
  if task.changed change = task.status then b
  else { b with store := (b.store.updateStatus .task { task with status := task.changed change }).2 }

def Task.withStatus (task : Task) (version : UInt64) (status : TaskStatus) : Task :=
  { task with metadata := { task.metadata with resourceVersion := version }, status := status }

namespace Backend
variable {b after : Backend} {task : Task} {change : TaskStatus → TaskStatus}

theorem notedTasks (change : TaskStatus → TaskStatus)
    (stored : b.store.get? .task task.key = some task) :
    (task.changed change = task.status ∧ b.noted task change = b) ∨
    (∃ version, (b.noted task change).store.tasks =
      b.store.tasks.put (task.withStatus version (task.changed change))) := by
  unfold noted
  split
  · rename_i same
    exact .inl ⟨same, rfl⟩
  · refine .inr ⟨b.store.version + 1, ?_⟩
    have written := Collection.replaceAgreed (c := b.store.tasks)
      (o := { task with status := task.changed change }) (b.store.version + 1) 0
      Kind.task.takeStatus stored (.inr rfl)
    have after := congrArg Prod.snd written
    have object : Collection.laterWrite (b.store.version + 1) 0 task
        (Kind.task.takeStatus task { task with status := task.changed change }) =
        task.withStatus (b.store.version + 1) (task.changed change) := by
      simp [Collection.laterWrite, Kind.withMetadata, Kind.metadata, Kind.takeStatus, Task.withStatus]
    rw [object] at after
    exact after

theorem notedCount (change : TaskStatus → TaskStatus)
    (stored : b.store.get? .task task.key = some task) :
    ∃ version, (b.noted task change).store.get? .task task.key =
        some (task.withStatus version (task.changed change)) ∧
      ∀ p : Task → Bool, (b.noted task change).store.tasks.objects.values.countP p +
          (if p task then 1 else 0) =
        b.store.tasks.objects.values.countP p +
          if p (task.withStatus version (task.changed change)) then 1 else 0 := by
  rcases notedTasks change stored with ⟨same, unchanged⟩ | ⟨version, written⟩
  · have still : task.withStatus task.metadata.resourceVersion (task.changed change) = task := by
      rw [same]
      rfl
    refine ⟨task.metadata.resourceVersion, ?_, fun p => ?_⟩
    · rw [unchanged, still]
      exact stored
    · rw [unchanged, still]
  · refine ⟨version, ?_, fun p => ?_⟩
    · have found := Collection.putSame b.store.tasks (task.withStatus version (task.changed change))
      rw [← written] at found
      exact found
    · rw [written]
      exact Collection.countPut (k := .task) p stored

theorem notedOther (stored : b.store.get? .task task.key = some task) {key : Key}
    (other : key ≠ task.key) :
    (b.noted task change).store.get? .task key = b.store.get? .task key := by
  rcases notedTasks change stored with ⟨-, unchanged⟩ | ⟨version, written⟩
  · rw [unchanged]
  · have apart : key ≠ (task.withStatus version (task.changed change)).key := other
    have found := Collection.putOther b.store.tasks apart
    rw [← written] at found
    exact found

@[simp] theorem notedAgents : (b.noted task change).store.agents = b.store.agents := by
  unfold noted
  split <;> rfl

@[simp] theorem notedTemplates : (b.noted task change).store.templates = b.store.templates := by
  unfold noted
  split <;> rfl

@[simp] theorem notedTriggers : (b.noted task change).store.triggers = b.store.triggers := by
  unfold noted
  split <;> rfl

@[simp] theorem notedSecrets : (b.noted task change).store.secrets = b.store.secrets := by
  unfold noted
  split <;> rfl

@[simp] theorem notedWorkloads : (b.noted task change).workloads = b.workloads := by
  unfold noted
  split <;> rfl

theorem notedStore (same : after.store = b.store) :
    (after.noted task change).store = (b.noted task change).store := by
  unfold noted
  split
  · exact same
  · simp only [same]

end Backend
end Turnstile
