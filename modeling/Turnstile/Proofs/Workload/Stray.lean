import Turnstile.Proofs.Workload.Watch
/-! What a stopped task leaves. A stop removes the workload that the task records, so
once the task has ended the only live workloads of its name are those that a start made
and was let go before it was noted. One that is started again is recorded after all. -/
namespace Turnstile

namespace Task

def wasStopped (t : Task) : Bool :=
  t.phase == .completed && (t.status.condition? Condition.stopped).any (·.status == .true)

def redescribed (t : Task) : Task := { t with spec := { t.spec with description := "again" } }

end Task

def Worker.isIdle : Worker → Bool
  | idle => true
  | busy .. => false

theorem Worker.idleIff {worker : Worker} : worker.isIdle = true ↔ worker = .idle := by
  cases worker <;> simp [isIdle]

namespace Watch
open Reconcile
variable {start w : Watch} {key : Key} {t : Task} {attempt : UInt32}

theorem Tidy.idleRuns (h : w.Tidy) (stored : w.store.get? .task key = some t)
    (idle : t.phase ≠ .running) (live : workloadKey t attempt ∈ w.workloads.running) :
    w.Held (workloadKey t attempt) := by
  rcases h.owned _ (Workloads.liveIff.mpr live) with held | ⟨other, u, there, running, own⟩
  · exact held
  · have same : t.key = key := w.store.tasks.keyed stored
    have one : t.key.run attempt = other.run u.status.attempts := own
    rw [← (Key.runSame one).1, same, stored] at there
    cases there
    exact absurd running idle

/-- Whatever the workers and the others do while the version counter lasts, with whatever
calls that fail or conflict: once a task was completed by a stop request, no workload of any of its attempts is live
but one that a start made, or found there, and has yet to note or was dropped before. -/
theorem stoppedRunsNothing (empty : start.store = .empty) (bare : start.workloads.records = .empty)
    (idle : ∀ worker ∈ start.crew.workers, worker = .idle) (run : Run start w)
    (stored : w.store.get? .task key = some t) (stopped : t.wasStopped = true)
    (kept : workloadKey t attempt ∉ w.stray)
    (noted : ∀ worker ∈ w.crew.workers, workloadKey t attempt ∉ unrecorded worker.told) :
    workloadKey t attempt ∉ w.workloads.running := by
  intro live
  have completed : t.phase = .completed := by
    simpa using (Bool.and_eq_true_iff.mp stopped).1
  have held : w.Held (workloadKey t attempt) := by
    refine (run.tidy (emptyTidy empty bare idle)).1.idleRuns stored ?_ live
    rw [completed]
    exact nofun
  rcases held with strayed | ⟨worker, inside, made⟩
  · exact kept strayed
  · exact noted worker inside made

inductive Move where
  | write (call : Call) (clerical : call.Clerical)
  | edit (key : Key) (change : Task → Task)
  | take (i : Nat) (key : Key)
  | turn (i : Nat)

def move (now : Instant) (w : Watch) : Move → Watch
  | .write call _ => ⟨⟨(w.crew.backend.perform now call).2, w.crew.workers⟩, w.stray⟩
  | .edit key change =>
    match w.store.get? .task key with
    | some t => ⟨⟨(w.crew.backend.perform now (.update .task (change t))).2, w.crew.workers⟩, w.stray⟩
    | none => w
  | .take i key =>
    match w.crew.workers[i]? with
    | some .idle =>
      ⟨⟨w.crew.backend, w.crew.workers.set i (.busy [] (Reconciler.bare.reconcile now key))⟩, w.stray⟩
    | _ => w
  | .turn i =>
    match w.crew.workers[i]? with
    | some (.busy told (.call call next)) => w.asked now i told call next
    | some (.busy told (.done _)) =>
      ⟨⟨w.crew.backend, w.crew.workers.set i .idle⟩, w.stray ++ unrecorded told⟩
    | _ => w

theorem moveStep (now : Instant) (w : Watch) (m : Move) : w.move now m = w ∨ Step w (w.move now m) := by
  cases m with
  | write call clerical => exact .inr (.written w now call clerical)
  | edit key change =>
    unfold move
    dsimp only
    split
    · exact .inr (.written w now _ trivial)
    · exact .inl rfl
  | take i key =>
    unfold move
    dsimp only
    split
    · rename_i free
      exact .inr (.taken w Reconciler.bare now key free)
    · exact .inl rfl
  | turn i =>
    unfold move
    dsimp only
    split
    · rename_i turn
      exact .inr (.asked w now turn)
    · rename_i turn
      exact .inr (.dropped w turn)
    · exact .inl rfl

theorem moveSpends (now : Instant) (m : Move) (unspent : w.crew.Unspent) :
    (w.move now m).crew.backend.store.version.toNat ≤ w.crew.backend.store.version.toNat + 1 := by
  cases m with
  | write call => exact Backend.performSpends now call unspent
  | edit key change =>
    unfold move
    dsimp only
    split
    · exact Backend.performSpends now _ unspent
    · exact Nat.le_succ _
  | take i key =>
    unfold move
    dsimp only
    split <;> exact Nat.le_succ _
  | turn i =>
    unfold move
    dsimp only
    split
    · exact Backend.performSpends now _ unspent
    · exact Nat.le_succ _
    · exact Nat.le_succ _

theorem movesRun (now : Instant) (moves : List Move) (run : Run start w)
    (room : w.crew.backend.store.version.toNat + moves.length + 1 < UInt64.size) :
    Run start (moves.foldl (move now) w) := by
  induction moves generalizing w with
  | nil => exact run
  | cons m rest ih =>
    rw [List.length_cons] at room
    have unspent : w.crew.Unspent := by
      unfold Crew.Unspent Backend.Unspent
      omega
    have spends := moveSpends now m unspent
    refine ih ?_ (by omega)
    rcases moveStep now w m with same | step
    · rw [same]
      exact run
    · refine .step run step ?_
      unfold Crew.Unspent Backend.Unspent
      omega

def alone : Watch := ⟨⟨.empty, [.idle]⟩, []⟩

def played (moves : List Move) : Watch := moves.foldl (move default) alone

theorem playedRun {moves : List Move} (room : moves.length + 1 < UInt64.size) :
    Run alone (played moves) :=
  movesRun default moves (.start (by decide)) (by
    rw [show alone.crew.backend.store.version.toNat = 0 from rfl]
    omega)

def conflicted (agent task : Key) (change : Task → Task) : List Move :=
  [.write (.create .agent (Agent.bare agent none)) trivial,
    .write (.create .task (Task.bare task agent.name)) rfl,
    .take 0 task, .turn 0, .turn 0, .turn 0, .turn 0, .edit task change, .turn 0, .turn 0]

def visited (task : Key) (calls : Nat) : List Move :=
  .take 0 task :: List.replicate (calls + 1) (.turn 0)

def stoppedNext (agent task : Key) : List Move :=
  conflicted agent task Task.markStopped ++ visited task 2

def stoppedLater (agent task : Key) : List Move :=
  conflicted agent task Task.redescribed ++ visited task 5 ++ [.edit task Task.markStopped] ++
    visited task 3

theorem retriedRunsNothing : ∃ t,
    (played (stoppedLater ⟨"ns", "agent"⟩ ⟨"ns", "task"⟩)).store.get? .task ⟨"ns", "task"⟩ = some t ∧
    t.wasStopped = true ∧ workloadKey t 1 ∉
      (played (stoppedLater ⟨"ns", "agent"⟩ ⟨"ns", "task"⟩)).workloads.running := by
  have after : ((played (stoppedLater ⟨"ns", "agent"⟩ ⟨"ns", "task"⟩)).store.get? .task
      ⟨"ns", "task"⟩).map Task.wasStopped = some true := by decide +kernel
  have kept : (played (stoppedLater ⟨"ns", "agent"⟩ ⟨"ns", "task"⟩)).stray = [] := by decide +kernel
  have idle : ∀ worker ∈ (played (stoppedLater ⟨"ns", "agent"⟩ ⟨"ns", "task"⟩)).crew.workers,
      worker.isIdle = true := List.all_eq_true.mp (by decide +kernel)
  obtain ⟨t, stored, stopped⟩ := Option.map_eq_some_iff.mp after
  refine ⟨t, stored, stopped, stoppedRunsNothing rfl rfl (by simp [alone]) (playedRun (by decide))
    stored stopped (by rw [kept]; exact List.not_mem_nil) fun worker inside => ?_⟩
  rw [Worker.idleIff.mp (idle worker inside)]
  exact List.not_mem_nil

/-- All workers are idle and the task was stopped, but its workload is live. -/
theorem strayRuns : ¬ ∀ (start w : Watch) (key : Key) (t : Task) (attempt : UInt32),
    start.store = .empty → start.workloads.records = .empty →
    (∀ worker ∈ start.crew.workers, worker = .idle) → Run start w →
    (∀ worker ∈ w.crew.workers, worker = .idle) →
    w.store.get? .task key = some t → t.wasStopped = true →
    workloadKey t attempt ∉ w.workloads.running := by
  intro nothing
  have after : ((played (stoppedNext ⟨"ns", "agent"⟩ ⟨"ns", "task"⟩)).store.get? .task
      ⟨"ns", "task"⟩).map (fun t => (t.wasStopped, workloadKey t 1)) =
      some (true, ⟨"ns", "task-1"⟩) := by decide +kernel
  have idle : ∀ worker ∈ (played (stoppedNext ⟨"ns", "agent"⟩ ⟨"ns", "task"⟩)).crew.workers,
      worker.isIdle = true := List.all_eq_true.mp (by decide +kernel)
  have live : (⟨"ns", "task-1"⟩ : Key) ∈
      (played (stoppedNext ⟨"ns", "agent"⟩ ⟨"ns", "task"⟩)).workloads.running := by decide +kernel
  obtain ⟨t, stored, seen⟩ := Option.map_eq_some_iff.mp after
  obtain ⟨stopped, named⟩ := Prod.mk.inj seen
  refine nothing alone _ _ t 1 rfl rfl (by simp [alone]) (playedRun (by decide))
    (fun worker inside => Worker.idleIff.mp (idle worker inside)) stored stopped ?_
  rw [named]
  exact live

end Watch
end Turnstile
