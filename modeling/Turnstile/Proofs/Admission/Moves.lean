import Turnstile.Proofs.Admission.Count
import Turnstile.Proofs.Admission.Order
import Turnstile.Proofs.Reconcile.Noted
import Turnstile.Proofs.Reconcile.Visit
import Turnstile.Proofs.Time
/-! What one reconcile makes of a task that waits in line, and how that moves what
its agent's limits count. -/
namespace Turnstile
open Admission Reconcile

def Task.startedWithin (agent : Key) (window : Duration) (now : Instant) (t : Task) : Bool :=
  t.agentKey? == some agent &&
    t.status.startTime.any fun s => decide (now.shift (-(window.nanoseconds : Int)) ≤ s) && decide (s ≤ now)

def Task.aheadOf (agent : Key) (now : Instant) (t p : Task) : Bool :=
  p.agentKey? == some agent && (p.key != t.key && isEligible now p && before p t)

namespace Admission

theorem startsCount (agent : Key) (tasks : List Task) (window : Duration) (now : Instant) :
    (startsWithin agent tasks window now).length =
      tasks.countP (Task.startedWithin agent window now) := by
  unfold startsWithin countedAgainst
  rw [List.length_mergeSort]
  induction tasks with
  | nil => rfl
  | cons t rest ih =>
    rw [List.countP_cons, ← ih]
    unfold Task.startedWithin
    by_cases own : (t.agentKey? == some agent) = true
    · cases start : t.status.startTime with
      | none => simp [own, start]
      | some s =>
        simp only [List.filter_cons, own, if_true, List.filterMap_cons, start, Option.any_some,
          Bool.true_and]
        split <;> simp
    · simp [own]

theorem aheadCount (now : Instant) (agent : Key) (t : Task) (tasks : List Task) :
    queuedAhead now t (countedAgainst agent tasks) = tasks.countP (Task.aheadOf agent now t) := by
  unfold queuedAhead countedAgainst
  rw [List.filter_filter, ← List.countP_eq_length_filter]
  refine List.countP_congr fun p _ => ?_
  simp only [Task.aheadOf, before, Bool.and_eq_true]
  exact and_comm

end Admission

def Reconcile.room (s : Store) (now : Instant) (agent : Agent) (n : Nat) : Bool :=
  (capacityIn s agent).exceeds n && (quotaIn s now agent).remaining.exceeds n

inductive Moved (now : Instant) (agent : Agent) (t : Task) : Bool → Task → Prop where
  | started {version : UInt64} {spec : WorkloadSpec} (own : spec.agent = agent) :
      Moved now agent t true (t.withStatus version (t.changed (runningStatus now spec)))
  | waits {version : UInt64} {w : Wait} (own : w.agent = agent) :
      Moved now agent t false (t.withStatus version (t.changed (queuedStatus now w)))

namespace Moved
variable {now : Instant} {agent : Agent} {t u q : Task} {started : Bool}

theorem key (moved : Moved now agent t started u) : u.key = t.key := by
  cases moved <;> rfl

theorem phase (moved : Moved now agent t started u) :
    u.phase = if started then .running else .queued := by
  cases moved <;> rfl

theorem agentKey (moved : Moved now agent t started u) : u.agentKey? = some agent.key := by
  cases moved with
  | started own => exact Task.agentRecorded (by rw [← own]; rfl)
  | waits own => exact Task.agentRecorded (by rw [← own]; rfl)

theorem before (moved : Moved now agent t started u) : before u q = before t q := by
  cases moved <;> rfl

theorem runs (moved : Moved now agent t started u) : u.runsFor agent.key = started := by
  unfold Task.runsFor isRunning
  rw [moved.phase, moved.agentKey]
  cases started <;> simp

theorem eligible (moved : Moved now agent t started u) (waited : isEligible now t = true) :
    isEligible now u = !started := by
  cases moved with
  | started => rfl
  | waits =>
    simp only [isEligible, Bool.and_eq_true] at waited
    exact (Bool.and_eq_true ..).mpr ⟨(Bool.and_eq_true ..).mpr ⟨rfl, waited.1.2⟩, waited.2⟩

theorem ahead (moved : Moved now agent t started u) (waited : isEligible now t = true)
    (counted : t.agentKey? = some agent.key) :
    Task.aheadOf agent.key now q u = (!started && Task.aheadOf agent.key now q t) := by
  unfold Task.aheadOf
  rw [moved.agentKey, counted, moved.key, moved.before, moved.eligible waited, waited]
  cases started <;> simp

theorem startedWithin {window : Duration} (moved : Moved now agent t started u)
    (counted : t.agentKey? = some agent.key)
    (outside : t.startedWithin agent.key window now = false) :
    u.startedWithin agent.key window now = started := by
  unfold Task.startedWithin at outside ⊢
  rw [moved.agentKey]
  rw [counted] at outside
  cases moved with
  | started =>
    have since := Instant.shiftBack now window.nanoseconds
    have reflexive : now ≤ now := .inr ⟨rfl, Nat.le_refl _⟩
    change (_ && (decide _ && decide _)) = true
    simp [since, reflexive]
  | waits => exact outside

end Moved

namespace Reconcile
variable {r : Reconciler} {now : Instant} {b : Backend} {t : Task} {agent : Agent} {resolved : Resolved}

theorem reconcileGate (stored : b.store.get? .task t.key = some t) (waited : isEligible now t = true) :
    ∃ outcome, Gate r now b t outcome ((r.reconcile now t.key).run now b).2 := by
  simp only [isEligible, Bool.and_eq_true, beq_iff_eq, Bool.not_eq_true'] at waited
  obtain ⟨⟨queued, free⟩, -⟩ := waited
  obtain ⟨outcome, -, visit⟩ := reconcileVisits r now b t.key
  exact ⟨outcome, visit.gate stored (.inr queued) free⟩

theorem Gate.moves {outcome : ReconcileOutcome} {after : Backend} (gate : Gate r now b t outcome after)
    (waited : isEligible now t = true) (found : resolveIn b.store t = .ok resolved)
    (image : Text.isAllBlank resolved.agent.spec.image = false) :
    ∃ (b' : Backend) (change : TaskStatus → TaskStatus), b'.store = b.store ∧
      after = b'.noted t change ∧
      ∀ version, Moved now resolved.agent t
        (room b.store now resolved.agent (aheadIn b.store now resolved.agent t))
        (t.withStatus version (t.changed change)) := by
  unfold room
  cases gate with
  | backingOff early =>
    obtain ⟨set, early⟩ := early
    simp only [isEligible, set, Bool.and_eq_true, Option.all_some] at waited
    exact absurd early (Instant.dueNotEarly (by simpa using waited.2))
  | blocked _ unresolved => rw [found] at unresolved; cases unresolved
  | crowded _ same full =>
    rw [found] at same
    cases same
    rw [full]
    exact ⟨b, _, rfl, rfl, fun _ => .waits rfl⟩
  | overQuota _ same slots spent =>
    rw [found] at same
    cases same
    rw [slots, spent]
    exact ⟨b, _, rfl, rfl, fun _ => .waits rfl⟩
  | refused _ same _ _ blank =>
    rw [found] at same
    cases same
    rw [image] at blank
    cases blank
  | started _ same slots allowance =>
    rw [found] at same
    cases same
    rw [slots, allowance]
    have own : (nextRun t resolved).agent = resolved.agent := rfl
    exact ⟨created now (clearedFor b t) (nextRun t resolved), _, clearedStore, rfl,
      fun _ => .started own⟩

theorem resolveSame {s s' : Store} (agents : s'.agents = s.agents)
    (templates : s'.templates = s.templates) (t : Task) : resolveIn s' t = resolveIn s t := by
  have agent : ∀ key, s'.get? .agent key = s.get? .agent key := fun key => by
    change s'.agents.objects.get? key = s.agents.objects.get? key
    rw [agents]
  have template : ∀ key, s'.get? .template key = s.get? .template key := fun key => by
    change s'.templates.objects.get? key = s.templates.objects.get? key
    rw [templates]
  unfold resolveIn effectiveSpecIn
  simp only [agent, template]

theorem roomFewer {s : Store} {m n : Nat} (fewer : m ≤ n) (free : room s now agent n = true) :
    room s now agent m = true := by
  unfold room at free ⊢
  obtain ⟨slots, starts⟩ := (Bool.and_eq_true ..).mp free
  exact (Bool.and_eq_true ..).mpr
    ⟨Headroom.exceedsFewer fewer slots, Headroom.exceedsFewer fewer starts⟩

theorem capacityCounted (s : Store) (agent : Agent) : capacityIn s agent =
    .ofUsage agent.spec.maxConcurrentTasks (s.tasks.objects.values.countP (Task.runsFor agent.key)) := by
  unfold capacityIn remainingCapacity
  rw [countRunningAll, Store.listAll]
  rfl

theorem quotaCounted (s : Store) (now : Instant) (agent : Agent) (n : Nat) :
    (quotaIn s now agent).remaining.exceeds n = agent.spec.quota.all fun quota =>
      (Headroom.ofUsage (some quota.maxTaskStarts) (s.tasks.objects.values.countP
        (Task.startedWithin agent.key (window quota) now))).exceeds n := by
  unfold quotaIn
  cases agent.spec.quota with
  | none => rfl
  | some quota =>
    unfold checkQuota
    dsimp only
    rw [startsCount, Store.listAll]
    rfl

theorem roomUsed {s s' : Store} {more n : Nat}
    (running : s'.tasks.objects.values.countP (Task.runsFor agent.key) =
      s.tasks.objects.values.countP (Task.runsFor agent.key) + more)
    (starts : ∀ quota, agent.spec.quota = some quota →
      s'.tasks.objects.values.countP (Task.startedWithin agent.key (window quota) now) =
        s.tasks.objects.values.countP (Task.startedWithin agent.key (window quota) now) + more) :
    room s' now agent n = room s now agent (more + n) := by
  unfold room
  rw [capacityCounted, capacityCounted, quotaCounted, quotaCounted, running, Headroom.exceedsUsed]
  congr 1
  cases limit : agent.spec.quota with
  | none => rfl
  | some quota => rw [Option.all_some, Option.all_some, starts quota limit, Headroom.exceedsUsed]

theorem roomEased {s s' : Store} {n : Nat}
    (running : s'.tasks.objects.values.countP (Task.runsFor agent.key) ≤
      s.tasks.objects.values.countP (Task.runsFor agent.key))
    (starts : ∀ quota, agent.spec.quota = some quota →
      s'.tasks.objects.values.countP (Task.startedWithin agent.key (window quota) now) ≤
        s.tasks.objects.values.countP (Task.startedWithin agent.key (window quota) now))
    (free : room s now agent n = true) : room s' now agent n = true := by
  unfold room at free ⊢
  rw [capacityCounted, quotaCounted] at free ⊢
  obtain ⟨slots, rate⟩ := Bool.and_eq_true_iff.mp free
  refine Bool.and_eq_true_iff.mpr ⟨Headroom.exceedsEased running slots, ?_⟩
  cases limit : agent.spec.quota with
  | none => rfl
  | some quota =>
    rw [limit, Option.all_some] at rate
    rw [Option.all_some]
    exact Headroom.exceedsEased (starts quota limit) rate

end Reconcile

end Turnstile
