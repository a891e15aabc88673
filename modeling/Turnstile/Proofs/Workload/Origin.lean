import Turnstile.Proofs.Reconcile.Rounds
import Turnstile.Proofs.Admission.Count
import Turnstile.Proofs.Workload.Ownership
/-! What a workload was made from. The name of a run is its task's name and a number, and a
creation takes what is there under the name. So each start has a workload of its own, and a
task hears of its own runs only, as long as no task is created while a run of an earlier one
of its name is left. -/
namespace Turnstile
open Reconcile

namespace Round

structure Made (q : Round) (t : Task) (record : Workload) : Prop where
  starts : q.starts t.key = true
  spec : ∃ old resolved, q.before.store.get? .task t.key = some old ∧
    old.metadata.uid = t.metadata.uid ∧ resolveIn q.before.store old = .ok resolved ∧
    record.spec = nextRun old resolved

/-- The task that the reconcile started records a workload that it made, and that runs. -/
def Launched (p : Round) : Prop :=
  ∃ t run record, p.after.store.get? .task p.key = some t ∧ recorded? t = some run ∧
    p.after.workloads.records.get? run = some record ∧ record.status.state = .running ∧
    p.Made t record

end Round

structure Round.Starting (p : Round) (t u : Task) (record : Workload) : Prop where
  stored : p.before.store.get? .task p.key = some t
  found : p.after.store.get? .task p.key = some u
  running : u.phase = .running
  counted : t.status.attempts < u.status.attempts
  new : p.after.workloads.records.get? (p.key.run u.status.attempts) = some record
  state : record.status.state = .running
  others : ∀ run record, run ≠ p.key.run u.status.attempts →
    p.after.workloads.records.get? run = some record →
    ∃ old, p.before.workloads.records.get? run = some old ∧ record.spec = old.spec
  made : p.Made u record

/-- What others do: calls that write no status and touch no workload, and workloads end
and vanish. -/
inductive Outside : Backend → Backend → Prop where
  | written (b : Backend) (now : Instant) (c : Call) (leaves : c.LeavesStatus)
      (spares : (b.perform now c).2.workloads = b.workloads) : Outside b (b.perform now c).2
  | finished (b : Backend) (run : Key) (status : WorkloadStatus) :
      Outside b { b with workloads := (b.workloads.finish run status).2 }
  | evicted (b : Backend) (run : Key) : Outside b { b with workloads := (b.workloads.evict run).2 }

/-- No workload is left under the names of a task that was created. -/
def Unclaimed (b after : Backend) : Prop :=
  ∀ key, b.store.get? .task key = none → after.store.get? .task key ≠ none →
    ∀ attempt, after.workloads.records.get? (key.run attempt) = none

structure Succeeds (t old : Task) : Prop where
  attempts : t.status.attempts = old.status.attempts
  uid : t.metadata.uid = old.metadata.uid
  running : t.phase = .running → t.status = old.status

structure Sourced (log : List Round) (b : Backend) : Prop where
  coherent : b.Coherent
  free : ∀ key t, b.store.get? .task key = some t → ∀ attempt, t.status.attempts < attempt →
    b.workloads.records.get? (key.run attempt) = none
  told : ∀ key t record, b.store.get? .task key = some t → t.phase = .running →
    b.workloads.records.get? (key.run t.status.attempts) = some record → ∃ q ∈ log, q.Made t record

section
variable {log more : List Round} {p q : Round} {b after first : Backend} {t u : Task} {key : Key}
  {record old : Workload} {n : UInt32}

theorem Round.Made.kept (made : q.Made t old) (key : u.key = t.key)
    (uid : u.metadata.uid = t.metadata.uid) (spec : record.spec = old.spec) : q.Made u record := by
  obtain ⟨found, resolved, stored, own, resolves, same⟩ := made.spec
  refine ⟨by rw [key]; exact made.starts, found, resolved, ?_, own.trans uid.symm, resolves, spec.trans same⟩
  rw [key]
  exact stored

theorem Outside.coherent (next : Outside b after) (h : b.Coherent) : after.Coherent := by
  cases next with
  | written now c leaves => exact h.perform leaves
  | finished | evicted => exact h.sameTasks rfl

theorem Outside.within (next : Outside b after) : after.workloads.Within b.workloads := by
  cases next with
  | written now c leaves spares =>
    rw [spares]
    exact Workloads.withinSelf _
  | finished => exact Workloads.finishWithin
  | evicted => exact Workloads.deleteWithin

theorem Outside.origin (next : Outside b after) (found : after.store.get? .task key = some t) :
    (b.store.get? .task key = none ∧ t.phase ≠ .running) ∨
    ∃ old, b.store.get? .task key = some old ∧ Succeeds t old := by
  cases next with
  | written now c leaves =>
    rcases Backend.performOrigin leaves found with ⟨absent, fresh⟩ | ⟨old, before, status, uid⟩
    · exact .inl ⟨absent, Task.freshIdle fresh⟩
    · exact .inr ⟨old, before, by rw [status], uid, fun _ => status⟩
  | finished | evicted => exact .inr ⟨t, found, rfl, rfl, fun _ => rfl⟩

theorem Round.quiet (rests : p.starts p.key = false) : p.after.workloads.Within p.before.workloads := by
  rcases p.changed.within with within | ⟨t, u, stored, idle, found, running⟩
  · exact within
  · rw [Round.startsRunning stored found idle running] at rests
    cases rests

theorem Round.rested (rests : p.starts p.key = false) (found : p.after.store.get? .task key = some u) :
    ∃ t, p.before.store.get? .task key = some t ∧ Succeeds u t := by
  obtain ⟨t, stored, same | ⟨own, version, change, write, same⟩⟩ := p.changed.origin found
  · subst same
    exact ⟨u, stored, rfl, rfl, fun _ => rfl⟩
  · subst own same
    refine ⟨t, stored, ?_⟩
    generalize p.after.workloads = w at write
    cases write with
    | started _ idle =>
      rw [Round.startsRunning stored found idle rfl] at rests
      cases rests
    | blocked _ idle => exact ⟨rfl, rfl, fun runs => absurd runs idle⟩
    | queued | completed | retried | failed | stopped => exact ⟨rfl, rfl, nofun⟩

theorem countedOn (countable : n + 1 ≠ 0) : n < n + 1 := by
  have bound := n.toNat_lt
  have positive : (n + 1).toNat ≠ 0 := fun zero => countable (UInt32.toNat_inj.mp zero)
  rw [UInt32.lt_iff_toNat_lt]
  rw [UInt32.toNat_add] at positive ⊢
  change (n.toNat + 1) % _ ≠ 0 at positive
  change n.toNat < (n.toNat + 1) % _
  omega

namespace Sourced

theorem kept (h : Sourced log b) (coherent : after.Coherent)
    (within : after.workloads.Within b.workloads)
    (origin : ∀ key t, after.store.get? .task key = some t →
      (t.phase ≠ .running ∧ ∀ attempt, after.workloads.records.get? (key.run attempt) = none) ∨
      ∃ old, b.store.get? .task key = some old ∧ Succeeds t old)
    (past : ∀ p ∈ log, p ∈ more) : Sourced more after where
  coherent := coherent
  free key t stored attempt later := by
    rcases origin key t stored with ⟨-, free⟩ | ⟨old, before, same⟩
    · exact free attempt
    · rw [same.attempts] at later
      exact within.absent (h.free key old before attempt later)
  told key t record stored running there := by
    rcases origin key t stored with ⟨idle, -⟩ | ⟨old, before, same⟩
    · exact absurd running idle
    · obtain ⟨first, was, spec⟩ := within _ record there
      rw [same.attempts] at was
      have runs : old.phase = .running := by
        rw [← running]
        exact (Task.phaseSame (same.running running)).symm
      obtain ⟨q, inside, made⟩ := h.told key old first before runs was
      have own : t.key = old.key := (after.store.tasks.keyed stored).trans (b.store.tasks.keyed before).symm
      exact ⟨q, past q inside, made.kept own same.uid spec⟩

theorem between (h : Sourced log b) (next : Outside b after) (unclaimed : Unclaimed b after) :
    Sourced log after := by
  refine h.kept (next.coherent h.coherent) next.within (fun key t stored => ?_) fun _ => id
  rcases next.origin stored with ⟨absent, idle⟩ | old
  · refine .inl ⟨idle, unclaimed key absent ?_⟩
    rw [stored]
    exact nofun
  · exact .inr old

theorem starting (h : Sourced log p.before) (starts : p.starts p.key = true) :
    ∃ t u record, p.Starting t u record := by
  obtain ⟨t, resolved, version, stored, active, idle, -, found, -, image, after, workloads⟩ :=
    Round.started starts
  have own : t.key = p.key := p.before.store.tasks.keyed stored
  have more : t.status.attempts < t.status.attempts + 1 :=
    countedOn ((h.coherent p.key t stored).waiting active idle).2.2.2.2
  have run : (nextRun t resolved).key = p.key.run (t.status.attempts + 1) := by
    rw [← own]
    rfl
  have vacant : (clearedFor p.before t).workloads.records.get? (nextRun t resolved).key = none := by
    rw [run]
    exact clearedWithin.absent (h.free p.key t stored _ more)
  have records : p.after.workloads.records = (clearedFor p.before t).workloads.records.insert
      (p.key.run (t.status.attempts + 1)) ⟨nextRun t resolved, p.now, ⟨.running, none, .empty⟩⟩ := by
    rw [workloads, ← run]
    exact Workloads.createFree image vacant
  refine ⟨t, _, ⟨nextRun t resolved, p.now, ⟨.running, none, .empty⟩⟩, stored, after, rfl, more, ?_, rfl,
    fun run record apart there => ?_, ?_, t, resolved, ?_, rfl, found, rfl⟩
  · rw [records]
    exact SortedMap.getInsertSame _ _ _
  · have apart : run ≠ p.key.run (t.status.attempts + 1) := apart
    rw [records, SortedMap.getInsertOther _ _ apart] at there
    exact clearedWithin run record there
  · change p.starts t.key = true
    rw [own]
    exact starts
  · change p.before.store.get? .task t.key = some t
    rw [own]
    exact stored

theorem started (h : Sourced log p.before) (coherent : p.after.Coherent) (starts : p.starts p.key = true) :
    Sourced (log ++ [p]) p.after := by
  obtain ⟨t, u, made, start⟩ := h.starting starts
  -- of the names only the new run's is taken, and no other task or number gives this name
  refine ⟨coherent, fun key x stored attempt later => ?_, fun key x record stored running there => ?_⟩
  · cases there : p.after.workloads.records.get? (key.run attempt) with
    | none => rfl
    | some record =>
      have apart : key.run attempt ≠ p.key.run u.status.attempts := by
        intro same
        obtain ⟨rfl, rfl⟩ := Key.runSame same
        rw [start.found] at stored
        cases stored
        exact UInt32.lt_irrefl _ later
      obtain ⟨old, before, -⟩ := start.others _ record apart there
      by_cases own : key = p.key
      · subst own
        rw [start.found] at stored
        cases stored
        rw [h.free p.key t start.stored attempt (UInt32.lt_trans start.counted later)] at before
        cases before
      · rw [p.changed.others own] at stored
        rw [h.free key x stored attempt later] at before
        cases before
  · by_cases own : key = p.key
    · subst own
      rw [start.found] at stored
      cases stored
      rw [start.new] at there
      cases there
      exact ⟨p, by simp, start.made⟩
    · obtain ⟨old, before, spec⟩ := start.others _ record (fun same => own (Key.runSame same).1) there
      rw [p.changed.others own] at stored
      obtain ⟨q, inside, made⟩ := h.told key x old stored running before
      exact ⟨q, List.mem_append_left _ inside, made.kept rfl rfl spec⟩

theorem reconciled (h : b.Coherent) (r : Reconciler) (now : Instant) (key : Key) :
    ((r.reconcile now key).run now b).2.Coherent := by
  obtain ⟨outcome, -, visit⟩ := reconcileVisits r now b key
  exact visit.coherent h

theorem round (h : Sourced log p.before) : Sourced (log ++ [p]) p.after := by
  have coherent : p.after.Coherent := reconciled h.coherent _ _ _
  cases rests : p.starts p.key with
  | true => exact h.started coherent rests
  | false =>
    exact h.kept coherent (Round.quiet rests) (fun key t stored => .inr (Round.rested rests stored))
      fun _ => List.mem_append_left _

theorem launched (h : Sourced log p.before) (starts : p.starts p.key = true) : p.Launched := by
  obtain ⟨t, u, made, start⟩ := h.starting starts
  have own : u.key = p.key := p.after.store.tasks.keyed start.found
  have coherent : p.after.Coherent := reconciled h.coherent _ _ _
  refine ⟨u, _, made, start.found, recordedRunning (own ▸ coherent p.key u start.found) start.running,
    ?_, start.state, start.made⟩
  rw [own]
  exact start.new

theorem heard {run : Key} {now : Instant} {observed : WorkloadStatus} (h : Sourced log b)
    (stored : b.store.get? .task key = some t) (running : t.phase = .running)
    (recorded : recorded? t = some run) (shown : (b.workloads.status now run).1 = some observed) :
    ∃ record, b.workloads.records.get? run = some record ∧ ∃ q ∈ log, q.Made t record := by
  have own : t.key = key := b.store.tasks.keyed stored
  rw [recordedRunning (own ▸ h.coherent key t stored) running, own] at recorded
  cases recorded
  cases there : b.workloads.records.get? (key.run t.status.attempts) with
  | none =>
    unfold Workloads.status at shown
    rw [there] at shown
    cases shown
  | some record => exact ⟨record, rfl, h.told key t record stored running there⟩

end Sourced

theorem Chronicle.sourced (run : Chronicle (fun b after => Outside b after ∧ Unclaimed b after) first log b)
    (empty : first.store = .empty) : Sourced log b := by
  induction run with
  | start =>
    refine ⟨.empty empty, fun key t stored => ?_, fun key t record stored => ?_⟩
    · rw [empty] at stored
      cases stored
    · rw [empty] at stored
      cases stored
  | between past next ih => exact ih.between next.1 next.2
  | round past r now key ih => exact ih.round (p := ⟨r, now, key, _⟩)

/-- While tasks are created under names that no workload bears: a task that starts records a
workload that runs and that was made in this step, from what it resolved; and what a
reconcile hears of a running task's workload is of one that a start of this very task made. -/
theorem ownRuns (past : Chronicle (fun b after => Outside b after ∧ Unclaimed b after) first log b)
    (empty : first.store = .empty) :
    (∀ p ∈ log, p.starts p.key = true → p.Launched) ∧
    ∀ p ∈ log, ∀ t run observed, p.before.store.get? .task p.key = some t → t.phase = .running →
      recorded? t = some run → (p.before.workloads.status p.now run).1 = some observed →
      ∃ record, p.before.workloads.records.get? run = some record ∧ ∃ q ∈ log, q.Made t record := by
  refine ⟨fun p inside starts => ?_, fun p inside t run observed stored running recorded shown => ?_⟩
  · obtain ⟨earlier, -, before⟩ := past.before inside
    exact (before.sourced empty).launched starts
  · obtain ⟨earlier, within, before⟩ := past.before inside
    obtain ⟨record, there, q, early, made⟩ := (before.sourced empty).heard stored running recorded shown
    exact ⟨record, there, q, within q early, made⟩

end

theorem unclaimedVacant {b after : Backend} (vacant : after.workloads.records = .empty) :
    Unclaimed b after := by
  intro key _ _ attempt
  rw [vacant]
  rfl

theorem unclaimedSame {b after : Backend} (same : after.store = b.store) : Unclaimed b after := by
  intro key absent found
  rw [same] at found
  exact absurd absent found

def runOver : Backend :=
  let b := (Round.first (Agent.bare ⟨"ns", "agent"⟩ none) ⟨"ns", "task"⟩).after
  { b with workloads := (b.workloads.finish ⟨"ns", "task-1"⟩ ⟨.succeeded, none, .empty⟩).2 }

def runSwept : Backend := { runOver with workloads := (runOver.workloads.evict ⟨"ns", "task-1"⟩).2 }

def Backend.relaunch (b : Backend) : Round :=
  let task := Task.bare ⟨"ns", "task"⟩ "agent"
  ⟨.bare, default, ⟨"ns", "task"⟩, ((b.perform default (.delete .task ⟨"ns", "task"⟩)).2.perform default
    (.create .task { task with spec := { task.spec with description := "another" } })).2⟩

theorem overRun : Chronicle (fun b after => Outside b after ∧ Unclaimed b after) .empty
    [.first (Agent.bare ⟨"ns", "agent"⟩ none) ⟨"ns", "task"⟩] runOver := by
  have made : Chronicle (fun b after => Outside b after ∧ Unclaimed b after) .empty []
      (.lone (Agent.bare ⟨"ns", "agent"⟩ none) ⟨"ns", "task"⟩) :=
    (Chronicle.start.between ⟨.written _ default _ trivial rfl, unclaimedVacant rfl⟩).between
      ⟨.written _ default _ rfl rfl, unclaimedVacant rfl⟩
  exact (made.round .bare default ⟨"ns", "task"⟩).between
    ⟨.finished _ ⟨"ns", "task-1"⟩ ⟨.succeeded, none, .empty⟩, unclaimedSame rfl⟩

theorem sweptRun : ∃ b, Chronicle (fun b after => Outside b after ∧ Unclaimed b after) .empty
    [.first (Agent.bare ⟨"ns", "agent"⟩ none) ⟨"ns", "task"⟩, runSwept.relaunch] b := by
  have swept : Chronicle _ _ _ runSwept := overRun.between ⟨.evicted _ ⟨"ns", "task-1"⟩, unclaimedSame rfl⟩
  have vacant : runSwept.workloads.records = .empty := by decide +kernel
  have again : Chronicle _ _ _ runSwept.relaunch.before :=
    (swept.between ⟨.written _ default (.delete .task ⟨"ns", "task"⟩) trivial rfl,
      unclaimedVacant vacant⟩).between ⟨.written _ default _ rfl rfl, unclaimedVacant vacant⟩
  exact ⟨_, again.round .bare default ⟨"ns", "task"⟩⟩

theorem sweptLaunched : runSwept.relaunch.starts ⟨"ns", "task"⟩ = true ∧ runSwept.relaunch.Launched := by
  obtain ⟨b, past⟩ := sweptRun
  have starts : runSwept.relaunch.starts ⟨"ns", "task"⟩ = true := by decide +kernel
  exact ⟨starts, (ownRuns past rfl).1 runSwept.relaunch (by simp) starts⟩

theorem leftoverRun : ∃ b, Chronicle Outside .empty
    [.first (Agent.bare ⟨"ns", "agent"⟩ none) ⟨"ns", "task"⟩, runOver.relaunch] b := by
  have ended : Chronicle Outside _ _ runOver := overRun.imp And.left
  have again : Chronicle Outside _ _ runOver.relaunch.before :=
    (ended.between (.written _ default (.delete .task ⟨"ns", "task"⟩) trivial rfl)).between
      (.written _ default _ rfl rfl)
  exact ⟨_, again.round .bare default ⟨"ns", "task"⟩⟩

/-- The run that succeeded is left, and the start of the other task takes it for its own. -/
theorem leftoverTaken : ¬ ∀ (first b : Backend) (log : List Round), first.store = .empty →
    Chronicle Outside first log b → ∀ p ∈ log, p.starts p.key = true → p.Launched := by
  intro claim
  obtain ⟨b, past⟩ := leftoverRun
  have starts : runOver.relaunch.starts ⟨"ns", "task"⟩ = true := by decide +kernel
  obtain ⟨t, run, record, found, recorded, there, running, -⟩ :=
    claim _ _ _ rfl past runOver.relaunch (by simp) starts
  have names : (runOver.relaunch.after.store.get? .task ⟨"ns", "task"⟩).bind recorded? =
      some ⟨"ns", "task-1"⟩ := by decide +kernel
  have found : runOver.relaunch.after.store.get? .task ⟨"ns", "task"⟩ = some t := found
  rw [found, Option.bind_some, recorded] at names
  cases names
  have ended : (runOver.relaunch.after.workloads.records.get? ⟨"ns", "task-1"⟩).map (·.status.state) =
      some .succeeded := by decide +kernel
  rw [there, Option.map_some, running] at ended
  cases ended

end Turnstile
