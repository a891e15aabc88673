import Turnstile.Proofs.Admission.Line
import Turnstile.Proofs.Controller.Waking
/-! Who is woken when an agent loses a running task. A task that ended or was deleted wakes the queued
tasks of its agent; one that goes back into the line, to be retried, leaves the agent as much room
and wakes only itself. -/
namespace Turnstile

namespace Event

def requeues : Event .task → Bool
  | applied t => t.phase == .queued
  | deleted _ => false

def isApplied {k : Kind} : Event k → Bool
  | applied _ => true
  | deleted _ => false

end Event

namespace Reconcile
variable {r : Reconciler} {now : Instant} {b : Backend} {task : Task} {change : TaskStatus → TaskStatus}
  {w : Workloads}

theorem Change.ofRunning (write : Change r now b task change w) (running : task.phase = .running) (version : UInt64) :
    (task.withStatus version (task.changed change)).agentKey? = task.agentKey? ∧
    ((task.withStatus version (task.changed change)).phase = .queued ∨
      (task.withStatus version (task.changed change)).phase.isTerminal = true) := by
  cases write with
  | blocked _ idle | queued _ idle | started _ idle => exact absurd running idle
  | completed | failed | stopped => exact ⟨rfl, .inr rfl⟩
  | retried => exact ⟨rfl, .inl rfl⟩

end Reconcile

namespace Backend

inductive Visited (now : Instant) (b : Backend) : Backend → Prop where
  | reconciled (r : Reconciler) (key : Key) : Visited now b ((r.reconcile now key).run now b).2
  | deleted (key : Key) : Visited now b (b.perform now (.delete .task key)).2

/-- How an agent loses a running task: it is put back into the line, ended or deleted, and keeps its agent. -/
structure Loses (b : Backend) (agent : Key) (e : Event .task) (after : Backend) : Prop where
  record : after.store.tasks.events = b.store.tasks.events.push e
  running : ∃ t, b.store.get? .task e.key = some t ∧ t.runsFor agent = true
  counted : e.object.agentKey? = some agent
  ends : e.requeues = true ∨ (e.isApplied = true ∧ e.object.phase.isTerminal = true) ∨
    (e.isApplied = false ∧ e.object.isActive = true)

variable {b after : Backend} {now : Instant} {agent key : Key} {task : Task} {change : TaskStatus → TaskStatus}

theorem losesWritten {r : Reconciler} {w : Workloads} (stored : b.store.get? .task key = some task)
    (write : Reconcile.Change r now b task change w) (same : after.store = (b.noted task change).store)
    (fewer : after.store.running agent < b.store.running agent) : ∃ e, b.Loses agent e after := by
  have own : task.key = key := b.store.tasks.keyed stored
  subst own
  rw [Store.runningCount, Store.runningCount, same] at fewer
  rcases notedTasks change stored with ⟨-, unchanged⟩ | ⟨version, written⟩
  · rw [unchanged] at fewer
    exact absurd fewer (Nat.lt_irrefl _)
  · have count := Collection.countPut (k := .task) (c := b.store.tasks)
      (o := task.withStatus version (task.changed change)) (Task.runsFor agent) stored
    rw [← written] at count
    -- the count is lower only if the task itself was counted
    cases runs : task.runsFor agent with
    | false =>
      rw [runs] at count
      simp only [Bool.false_eq_true, if_false] at count
      omega
    | true =>
      obtain ⟨running, counted⟩ := Task.runsForIff.mp runs
      obtain ⟨agentSame, phase⟩ := write.ofRunning running version
      refine ⟨.applied (task.withStatus version (task.changed change)), ?_, ⟨task, stored, runs⟩,
        agentSame.trans counted, ?_⟩
      · rw [same, written]
        rfl
      · rcases phase with queued | ended
        · exact .inl (beq_iff_eq.mpr queued)
        · exact .inr (.inl ⟨rfl, ended⟩)

theorem losesDeleted (fewer : (b.perform now (.delete .task key)).2.store.running agent < b.store.running agent) :
    ∃ e, b.Loses agent e (b.perform now (.delete .task key)).2 := by
  have write := b.performTasks now (.delete .task key)
  rw [Store.runningCount, Store.runningCount] at fewer
  generalize tasks : (b.perform now (.delete .task key)).2.store.tasks = after at write fewer
  cases write with
  | none => exact absurd fewer (Nat.lt_irrefl _)
  | created asked | respecified asked | restatused asked => cases asked
  | @deleted gone t asked stored =>
    have own : Task.key t = gone := b.store.tasks.keyed stored
    subst own
    have count := Collection.countDrop (k := .task) (Task.runsFor agent) stored
    cases runs : t.runsFor agent with
    | false =>
      rw [runs] at count
      simp only [Bool.false_eq_true, if_false] at count
      omega
    | true =>
      obtain ⟨running, counted⟩ := Task.runsForIff.mp runs
      refine ⟨.deleted t, ?_, ⟨t, stored, runs⟩, counted, .inr (.inr ⟨rfl, ?_⟩)⟩
      · rw [tasks]
        rfl
      · simp [Event.object, Task.isActive, running, Phase.isTerminal]

theorem Visited.loses (visited : b.Visited now after) (fewer : after.store.running agent < b.store.running agent) :
    ∃ e, b.Loses agent e after := by
  cases visited with
  | deleted key => exact losesDeleted fewer
  | reconciled r key =>
    rcases Reconcile.reconcileChanged r now b key with ⟨same, -⟩ | ⟨task, change, stored, write, same⟩
    · rw [same] at fewer
      exact absurd fewer (Nat.lt_irrefl _)
    · exact losesWritten stored write same fewer

end Backend

namespace TaskController
variable {b after : Backend} {now : Instant} {agent key : Key} {e : Event .task} {t : Task} {q : WorkQueue Key}

theorem peersIff (now : Instant) (later : Backend) (counted : t.agentKey? = some agent) :
    key ∈ ((queuedPeers t).run now later).1 ↔
      ∃ p, later.store.get? .task key = some p ∧ p.phase = .queued ∧ p.agentKey? = some agent := by
  unfold queuedPeers
  rw [counted]
  refine (keysCounted later agent fun p => p.phase == .queued).trans ?_
  simp only [beq_iff_eq]

/-- What comes into the queue as an agent loses a running task: the task itself while it is there, and
unless it is to be retried the queued tasks of the agent. -/
def Wakes (agent : Key) (e : Event .task) (b : Backend) (key : Key) : Prop :=
  (e.isApplied = true ∧ key = e.key) ∨
    (e.requeues = false ∧ ∃ p, b.store.get? .task key = some p ∧ p.phase = .queued ∧ p.agentKey? = some agent)

theorem wokenPeersIff : key ∈ ((wokenPeers e).run now b).1 ↔
    frees e = true ∧ key ∈ ((queuedPeers e.object).run now b).1 := by
  unfold wokenPeers
  cases frees e with
  | true => exact (and_iff_right rfl).symm
  | false => exact iff_of_false List.not_mem_nil nofun

theorem wokenAtOnceIff : key ∈ wokenAtOnce e ↔ e.isApplied = true ∧ key = e.key := by
  cases e with
  | applied t => exact List.mem_singleton.trans (and_iff_right rfl).symm
  | deleted t => simp [wokenAtOnce, Event.isApplied]

theorem lostFrees (loses : b.Loses agent e after) : frees e = !e.requeues := by
  have ends := loses.ends
  cases e with
  | applied u =>
    rcases ends with queued | ⟨-, ended⟩ | ⟨deleted, -⟩
    · have phase : Task.phase u = .queued := beq_iff_eq.mp queued
      rw [queued]
      simp [frees, phase, Phase.isTerminal]
    · have ended : (Task.phase u).isTerminal = true := ended
      have back : (Event.applied u : Event .task).requeues = false := by
        refine beq_eq_false_iff_ne.mpr fun queued : Task.phase u = .queued => ?_
        rw [queued] at ended
        cases ended
      rw [back]
      exact ended
    · cases deleted
  | deleted u =>
    rcases ends with queued | ⟨applied, -⟩ | ⟨-, active⟩
    · cases queued
    · cases applied
    · exact active

theorem lostWakes (loses : b.Loses agent e after) (now : Instant) (later : Backend) :
    key ∈ ((wokenByTask e).run now later).1 ↔ Wakes agent e later key := by
  have inTurn : ((wokenByTask e).run now later).1 = wokenAtOnce e ++ ((wokenPeers e).run now later).1 := by
    unfold wokenByTask
    rw [Procedure.run, Procedure.runBind]
    rfl
  rw [inTurn, List.mem_append, wokenAtOnceIff, wokenPeersIff, lostFrees loses, Bool.not_eq_true',
    peersIff now later loses.counted]
  rfl

/-- Handling the change that an agent lost a running task by adds, of the queued tasks of that agent, all
when the task ended or was deleted, and beside it none when it is to be retried. Delays go on. -/
theorem freedWakes (visited : b.Visited now after) (fewer : after.store.running agent < b.store.running agent)
    (running : q.isShutdown = false) :
    ∃ e : Event .task, after.store.tasks.events = b.store.tasks.events.push e ∧
      (∃ t, b.store.get? .task e.key = some t ∧ t.runsFor agent = true) ∧
      ∀ (time : Instant) (later : Backend),
        let woken := q.addAll ((wokenByTask e).run time later).1
        woken.delayed = q.delayed ∧ ∀ key,
          (key ∈ woken.dirty ↔ key ∈ q.dirty ∨ Wakes agent e later key) ∧
          (woken.Marked key ↔ q.Marked key ∨ Wakes agent e later key) := by
  obtain ⟨e, loses⟩ := visited.loses fewer
  refine ⟨e, loses.record, loses.running, fun time later => ⟨WorkQueue.addAllDelayed, fun key => ⟨?_, ?_⟩⟩⟩
  · exact (WorkQueue.addAllDirty running).trans (or_congr_right (lostWakes loses time later))
  · exact (WorkQueue.addAllMarked running).trans (or_congr_right (lostWakes loses time later))

def contended : Backend :=
  ((Reconciler.bare.reconcile default ⟨"ns", "one"⟩).run default
    (Backend.lined default ⟨"ns", "agent"⟩ ⟨"ns", "one"⟩ ⟨"ns", "two"⟩)).2

def delayedPeer : WorkQueue Key := WorkQueue.empty.addAfter .zero ⟨"ns", "two"⟩ (.ofSeconds 600)

theorem deletionWakes :
    let after := (contended.perform default (.delete .task ⟨"ns", "one"⟩)).2
    after.store.running ⟨"ns", "agent"⟩ < contended.store.running ⟨"ns", "agent"⟩ ∧
    ∃ e, after.store.tasks.events.back? = some e ∧
      let woken := delayedPeer.addAll ((wokenByTask e).run default after).1
      ⟨"ns", "two"⟩ ∉ delayedPeer.dirty ∧ ⟨"ns", "two"⟩ ∈ woken.dirty ∧ woken.delayed = delayedPeer.delayed := by
  intro after
  have fewer : after.store.running ⟨"ns", "agent"⟩ < contended.store.running ⟨"ns", "agent"⟩ := by decide +kernel
  have last : after.store.tasks.events.back?.map Event.requeues = some false := by decide +kernel
  have waits : (after.store.get? .task ⟨"ns", "two"⟩).map (fun t => (t.phase, t.agentKey?)) =
      some (.queued, some ⟨"ns", "agent"⟩) := by decide +kernel
  obtain ⟨t, stored, facts⟩ := Option.map_eq_some_iff.mp waits
  obtain ⟨queued, counted⟩ := Prod.mk.inj facts
  obtain ⟨e, record, -, handled⟩ := freedWakes (q := delayedPeer) (.deleted ⟨"ns", "one"⟩) fewer rfl
  obtain ⟨delays, marks⟩ := handled default after
  rw [record, Array.back?_push] at last
  have wakes : Wakes ⟨"ns", "agent"⟩ e after ⟨"ns", "two"⟩ := .inr ⟨Option.some.inj last, t, stored, queued, counted⟩
  exact ⟨fewer, e, by rw [record, Array.back?_push], nofun, (marks _).1.mpr (.inr wakes), delays⟩

def retried : Backend :=
  ((Reconciler.bare.reconcile default ⟨"ns", "one"⟩).run default (contended.killed (Key.run ⟨"ns", "one"⟩ 1))).2

theorem retrySleeps : ¬ ∀ (now : Instant) (b after : Backend) (agent key : Key) (q : WorkQueue Key) (e : Event .task)
    (t : Task), b.Visited now after → after.store.running agent < b.store.running agent → q.isShutdown = false →
    after.store.tasks.events = b.store.tasks.events.push e → after.store.get? .task key = some t →
    t.phase = .queued → t.agentKey? = some agent → t.status.retryAfter.all (· ≤ now) = true →
    (q.addAll ((wokenByTask e).run now after).1).Marked key := by
  intro claim
  have visited : (contended.killed (Key.run ⟨"ns", "one"⟩ 1)).Visited default retried := .reconciled .bare _
  have fewer : retried.store.running ⟨"ns", "agent"⟩ <
      (contended.killed (Key.run ⟨"ns", "one"⟩ 1)).store.running ⟨"ns", "agent"⟩ := by decide +kernel
  have waits : (retried.store.get? .task ⟨"ns", "two"⟩).map (fun t =>
      (t.phase, t.agentKey?, t.status.retryAfter.all (· ≤ default))) =
      some (.queued, some ⟨"ns", "agent"⟩, true) := by decide +kernel
  have woken : retried.store.tasks.events.back?.map (fun e => ((wokenByTask e).run default retried).1) =
      some [⟨"ns", "one"⟩] := by decide +kernel
  obtain ⟨t, stored, facts⟩ := Option.map_eq_some_iff.mp waits
  obtain ⟨queued, counted, due⟩ : t.phase = .queued ∧ t.agentKey? = some _ ∧ _ := by
    simpa only [Prod.mk.injEq] using facts
  obtain ⟨e, loses⟩ := visited.loses fewer
  rw [loses.record, Array.back?_push] at woken
  have only : ((wokenByTask e).run default retried).1 = [⟨"ns", "one"⟩] := Option.some.inj woken
  have marked := claim default _ _ _ _ .empty e t visited fewer rfl loses.record stored queued counted due
  rw [only, WorkQueue.addAllMarked rfl] at marked
  rcases marked with before | two
  · exact WorkQueue.emptyUnmarked before
  · revert two
    decide

end TaskController
end Turnstile
