import Turnstile.Task.Stop
import Turnstile.Proofs.Interleaved
/-! Marking a task for stop while others write. A mark lands on the task that was read, which is
then the one that is stored, or the task is read again. -/
namespace Turnstile
open Procedure Turn

namespace Task

structure Marks (key : Key) (x : Turn) (t u : Task) : Prop where
  puts : x.Puts .task t u
  key : t.key = key
  active : t.isActive = true
  unmarked : t.stopRequested = false
  marked : u.stopRequested = true
  annotations : u.metadata.annotations = t.metadata.annotations.insert stopAnnotation "true"
  labels : u.metadata.labels = t.metadata.labels
  spec : u.spec = t.spec
  status : u.status = t.status
  identity : u.key = t.key ∧ u.metadata.uid = t.metadata.uid ∧
    u.metadata.creationTimestamp = t.metadata.creationTimestamp
  generation : u.metadata.generation = t.metadata.generation + 1

variable {key : Key} {b last : Backend} {log : List Turn} {reply : Except StoreError Bool} {limit : Nat}

theorem markStoppedRequested (t : Task) : t.markStopped.stopRequested = true := by
  have found : t.markStopped.metadata.annotations.get? stopAnnotation = some "true" :=
    SortedMap.getInsertSame t.metadata.annotations stopAnnotation "true"
  rw [stopRequested, found]
  rfl

theorem marksWritten {x : Turn} {t : Task} {v : UInt64} (own : t.key = key) (active : t.isActive = true)
    (unmarked : t.stopRequested = false)
    (puts : x.Puts .task t (Collection.laterWrite v 1 t (Kind.task.keepStatus t t.markStopped))) :
    Marks key x t (Collection.laterWrite v 1 t (Kind.task.keepStatus t t.markStopped)) :=
  ⟨puts, own, active, unmarked, t.markStoppedRequested, rfl, rfl, rfl, rfl, ⟨rfl, rfl, rfl⟩, rfl⟩

/-- However others come between, asking for a stop says that it did exactly if its last write marked
the task, as it was stored then, and no turn before that one wrote anything. -/
theorem stopOnce (copies : b.store.Copies) (amid : Amid (requestStopWithin key limit) b log reply last) :
    Once (fun x => ∃ t u, Marks key x t u) limit (reply = .ok true) log := by
  induction limit generalizing b log with
  | zero =>
    cases amid
    exact .nothing nofun
  | succ limit ih =>
    unfold requestStopWithin at amid
    obtain ⟨got, found, middle, rest, rfl, idle, reads, copies, copied, amid⟩ := amid.read copies
    refine .read ?_ idle reads
    cases found with
    | error e =>
      cases amid
      exact .nothing nofun
    | ok found =>
      cases found with
      | none =>
        cases amid
        exact .nothing nofun
      | some task =>
        obtain ⟨own, copied⟩ := copied task rfl
        dsimp only at amid
        split at amid
        · cases amid
          exact .nothing nofun
        · rename_i wanted
          obtain ⟨active, unmarked⟩ : task.isActive = true ∧ task.stopRequested = false := by
            simpa using wanted
          obtain ⟨before, written, after, rest, rfl, between, answered, amid⟩ := amid.next
          have copies := answered.copies (between.copies copies)
          rcases answered.updated (between.copied copied) rfl rfl with ⟨⟨e, rfl⟩, idle⟩ | ⟨v, rfl, puts⟩
          · refine .refused ?_ idle
            dsimp only at amid
            split at amid
            · exact ih copies amid
            · cases amid
              exact .nothing nofun
          · cases amid
            exact .landed ⟨task, _, marksWritten own active unmarked puts⟩ rfl

end Task
end Turnstile
