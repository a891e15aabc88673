import Turnstile.Proofs.Reconcile.Change
import Turnstile.Proofs.Workload.Live
/-! Runs of whole reconciles, others between them. What the others may do is a rule of the
run; of each reconcile it is noted when it came and what it found. -/
namespace Turnstile

def Backend.phase? (b : Backend) (key : Key) : Option Phase := (b.store.get? .task key).map Task.phase

theorem Backend.notedPhase {b : Backend} {t : Task} {change : TaskStatus → TaskStatus} {p : Phase}
    (stored : b.store.get? .task t.key = some t) (same : (change t.status).phase = some p) :
    (b.noted t change).phase? t.key = some p := by
  obtain ⟨version, written, -⟩ := notedCount change stored
  rw [phase?, written]
  simp [Task.phase, Task.withStatus, Task.changed, same]

theorem Backend.startedPhase {b : Backend} {t : Task} {now : Instant} (stored : b.store.get? .task t.key = some t)
    (spec : WorkloadSpec) : ((Reconcile.created now (Reconcile.clearedFor b t) spec).noted t
      (Reconcile.runningStatus now spec)).phase? t.key = some .running := by
  refine notedPhase ?_ rfl
  rw [show (Reconcile.created now (Reconcile.clearedFor b t) spec).store = b.store from Reconcile.clearedStore]
  exact stored

structure Round where
  reconciler : Reconciler
  now : Instant
  key : Key
  before : Backend

namespace Round
variable {p : Round} {key : Key} {t u : Task}

def after (p : Round) : Backend := ((p.reconciler.reconcile p.now p.key).run p.now p.before).2

def starts (p : Round) (key : Key) : Bool :=
  p.before.phase? key != some .running && p.after.phase? key == some .running

theorem changed (p : Round) : Reconcile.Changed p.reconciler p.now p.before p.key p.after :=
  Reconcile.reconcileChanged _ _ _ _

theorem startsFound (before : p.before.store.get? .task key = some t)
    (after : p.after.store.get? .task key = some u) :
    p.starts key = (t.phase != .running && u.phase == .running) := by
  unfold starts Backend.phase?
  rw [before, after]
  rfl

theorem startsRunning (before : p.before.store.get? .task key = some t)
    (after : p.after.store.get? .task key = some u) (idle : t.phase ≠ .running)
    (running : u.phase = .running) : p.starts key = true := by
  rw [startsFound before after, running]
  exact Bool.and_eq_true_iff.mpr ⟨bne_iff_ne.mpr idle, rfl⟩

theorem startsNever (absent : p.after.store.get? .task key = none) : p.starts key = false := by
  simp [starts, Backend.phase?, absent]

theorem startsOwn (starts : p.starts key = true) : p.key = key := by
  by_cases same : key = p.key
  · exact same.symm
  · unfold Round.starts Backend.phase? at starts
    rw [p.changed.others same] at starts
    obtain ⟨idle, running⟩ := (Bool.and_eq_true ..).mp starts
    rw [bne, running] at idle
    cases idle

theorem started (starts : p.starts key = true) : ∃ t resolved version,
    p.before.store.get? .task key = some t ∧ t.phase.isTerminal = false ∧ t.phase ≠ .running ∧
    Reconcile.Due p.now t ∧ Reconcile.resolveIn p.before.store t = .ok resolved ∧
    (Reconcile.quotaIn p.before.store p.now resolved.agent).remaining.exceeds
      (Reconcile.aheadIn p.before.store p.now resolved.agent t) = true ∧
    Text.isAllBlank resolved.agent.spec.image = false ∧
    p.after.store.get? .task key = some (t.withStatus version
      (t.changed (Reconcile.runningStatus p.now (Reconcile.nextRun t resolved)))) ∧
    p.after.workloads = ((Reconcile.clearedFor p.before t).workloads.create p.now
      (Reconcile.nextRun t resolved)).2 := by
  have own := startsOwn starts
  subst own
  cases stored : p.before.store.get? .task p.key with
  | none =>
    rw [startsNever (p.changed.absent stored)] at starts
    cases starts
  | some t =>
    rcases p.changed.found stored with ⟨same, -⟩ | ⟨version, change, write, after⟩
    · rw [startsFound stored same] at starts
      obtain ⟨idle, running⟩ := (Bool.and_eq_true ..).mp starts
      rw [bne, running] at idle
      cases idle
    · rw [startsFound stored after] at starts
      obtain ⟨idle, running⟩ := (Bool.and_eq_true ..).mp starts
      generalize left : p.after.workloads = w at write
      cases write with
      | started active idle due found allowance image =>
        exact ⟨t, _, version, rfl, active, idle, due, found, allowance, image, after, rfl⟩
      | blocked active idle => exact absurd (beq_iff_eq.mp running) idle
      | queued | completed | retried | failed | stopped => cases running

end Round

/-- A run from a first state and its reconciles, the oldest first. -/
inductive Chronicle (others : Backend → Backend → Prop) (first : Backend) :
    List Round → Backend → Prop where
  | start : Chronicle others first [] first
  | between {log b after} (past : Chronicle others first log b) (next : others b after) :
      Chronicle others first log after
  | round {log b} (past : Chronicle others first log b) (r : Reconciler) (now : Instant) (key : Key) :
      Chronicle others first (log ++ [⟨r, now, key, b⟩]) (Round.after ⟨r, now, key, b⟩)

theorem Chronicle.imp {others more : Backend → Backend → Prop} {first b : Backend} {log : List Round}
    (run : Chronicle others first log b) (weaker : ∀ {b after}, others b after → more b after) :
    Chronicle more first log b := by
  induction run with
  | start => exact .start
  | between past next ih => exact ih.between (weaker next)
  | round past r now key ih => exact ih.round r now key

theorem Chronicle.before {others : Backend → Backend → Prop} {first b : Backend} {log : List Round}
    {p : Round} (run : Chronicle others first log b) (inside : p ∈ log) :
    ∃ earlier, (∀ q ∈ earlier, q ∈ log) ∧ Chronicle others first earlier p.before := by
  induction run with
  | start => exact absurd inside List.not_mem_nil
  | between past next ih => exact ih inside
  | round past r now key ih =>
    rcases List.mem_append.mp inside with there | last
    · obtain ⟨earlier, within, run⟩ := ih there
      exact ⟨earlier, fun q early => List.mem_append_left _ (within q early), run⟩
    · rw [List.mem_singleton.mp last]
      exact ⟨_, fun q early => List.mem_append_left _ early, past⟩

def Backend.killed (b : Backend) (run : Key) : Backend :=
  { b with workloads := (b.workloads.finish run ⟨.failed, some ⟨137, "OOMKilled", none⟩, .empty⟩).2 }

def Backend.lone (agent : Agent) (task : Key) : Backend :=
  ((empty.perform default (.create .agent agent)).2.perform default
    (.create .task (Task.bare task agent.metadata.name))).2

def Round.failed (p : Round) (run : Key) : Round := ⟨p.reconciler, p.now, p.key, p.after.killed run⟩

def Round.later (p : Round) (seconds : Nat) : Round :=
  ⟨p.reconciler, (default : Instant).after (.ofSeconds seconds), p.key, p.after⟩

def Round.first (agent : Agent) (task : Key) : Round := ⟨.bare, default, task, .lone agent task⟩

def killedOnce (agent : Agent) (task : Key) : List Round :=
  let first := Round.first agent task
  [first, first.failed (task.run 1), (first.failed (task.run 1)).later 30]

def killedTwice (agent : Agent) (task : Key) : List Round :=
  let second := ((Round.first agent task).failed (task.run 1)).later 30
  killedOnce agent task ++ [second.failed (task.run 2), (second.failed (task.run 2)).later 60]

section
variable {others : Backend → Backend → Prop} {first : Backend} {log : List Round} {p : Round}

theorem Chronicle.later (run : Chronicle others first log p.after) (seconds : Nat) :
    Chronicle others first (log ++ [p.later seconds]) (p.later seconds).after :=
  run.round p.reconciler ((default : Instant).after (.ofSeconds seconds)) p.key

theorem Chronicle.failed (still : ∀ {b after : Backend}, after.store = b.store → others b after)
    (run : Chronicle others first log p.after) (key : Key) :
    Chronicle others first (log ++ [p.failed key]) (p.failed key).after := by
  have killed : others p.after (p.after.killed key) := still rfl
  exact (run.between killed).round p.reconciler p.now p.key

theorem killedOnceRun (still : ∀ {b after : Backend}, after.store = b.store → others b after)
    (agent : Agent) (task : Key) :
    ∃ b, Chronicle others (.lone agent task) (killedOnce agent task) b := by
  have started : Chronicle others (.lone agent task) [.first agent task] (Round.first agent task).after :=
    .round .start .bare default task
  exact ⟨_, (started.failed still (task.run 1)).later 30⟩

theorem killedTwiceRun (still : ∀ {b after : Backend}, after.store = b.store → others b after)
    (agent : Agent) (task : Key) :
    ∃ b, Chronicle others (.lone agent task) (killedTwice agent task) b := by
  have started : Chronicle others (.lone agent task) [.first agent task] (Round.first agent task).after :=
    .round .start .bare default task
  have second := (started.failed still (task.run 1)).later 30
  exact ⟨_, (second.failed still (task.run 2)).later 60⟩

end

end Turnstile
