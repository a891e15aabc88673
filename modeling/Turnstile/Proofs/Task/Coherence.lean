import Turnstile.Reconcile.Status
/-! Coherent statuses. In each phase some fields are set and some are not, and
every status that the reconciler writes over a coherent one is coherent again. -/
namespace Turnstile

structure Untouched (s : TaskStatus) : Prop where
  attempts : s.attempts = 0
  agent : s.agent = none
  workload : s.workloadName = none
  start : s.startTime = none
  backoff : s.retryAfter = none
  completion : s.completionTime = none
  reason : s.terminalReason = none
  exit : s.exitCode = none

structure InLine (s : TaskStatus) : Prop where
  agent : s.agent.isSome
  workload : s.workloadName = none
  completion : s.completionTime = none
  reason : s.terminalReason = none
  exit : s.exitCode = none
  countable : s.attempts + 1 ≠ 0

structure Underway (k : Key) (s : TaskStatus) : Prop where
  attempts : 1 ≤ s.attempts
  workload : s.workloadName = some (WorkloadSpec.nameFor k s.attempts)
  place : s.workloadNamespace = some k.ns
  start : s.startTime.isSome
  agent : s.agent.isSome
  backoff : s.retryAfter = none
  completion : s.completionTime = none
  reason : s.terminalReason = none
  exit : s.exitCode = none

structure Succeeded (s : TaskStatus) : Prop where
  completion : s.completionTime.isSome
  reason : s.terminalReason = none
  exit : s.exitCode = none

structure GivenUp (s : TaskStatus) : Prop where
  completion : s.completionTime.isSome
  reason : s.terminalReason.isSome

def Shape (k : Key) (s : TaskStatus) : Phase → Prop
  | .pending => Untouched s
  | .queued => InLine s
  | .running => Underway k s
  | .completed => Succeeded s
  | .failed => GivenUp s

theorem Shape.relabelled {k : Key} {s : TaskStatus} {p : Phase} (h : Shape k s p)
    (phase : Option Phase) (conditions : List Condition) (generation : UInt64) :
    Shape k { s with phase, conditions, observedGeneration := generation } p := by
  cases p
  · exact ⟨h.attempts, h.agent, h.workload, h.start, h.backoff, h.completion, h.reason, h.exit⟩
  · exact ⟨h.agent, h.workload, h.completion, h.reason, h.exit, h.countable⟩
  · exact ⟨h.attempts, h.workload, h.place, h.start, h.agent, h.backoff, h.completion, h.reason, h.exit⟩
  · exact ⟨h.completion, h.reason, h.exit⟩
  · exact ⟨h.completion, h.reason⟩

structure Coherent (k : Key) (s : TaskStatus) : Prop where
  shape : Shape k s (s.phase.getD .pending)
  starts : s.attempts = 0 ↔ s.startTime = none
  backoff : s.retryAfter.isSome → s.phase = some .queued
  conditions : (s.conditions.map Condition.type).Nodup

theorem onePositive {n : UInt32} (positive : n ≠ 0) : 1 ≤ n := by
  have nonzero : n.toNat ≠ 0 := fun zero => positive (UInt32.toNat_inj.mp zero)
  rw [UInt32.le_iff_toNat_le]
  change 1 ≤ n.toNat
  omega

theorem countableBelow {n max : UInt32} (below : n < max) : n + 1 ≠ 0 := by
  intro zero
  have wrapped := congrArg UInt32.toNat zero
  have bound := UInt32.lt_iff_toNat_lt.mp below
  have top := max.toNat_lt
  simp only [UInt32.toNat_add, UInt32.reduceToNat] at wrapped
  omega

theorem RetryPolicy.retriesBelow {p : RetryPolicy} {reason : TerminalReason} {attempts : UInt32}
    {delay : Duration} (again : p.decide reason attempts = .retryIn delay) :
    attempts < p.maxAttempts := by
  unfold decide at again
  split at again
  · rename_i both
    have below := (Bool.and_eq_true_iff.mp both).2
    simpa [shouldRetry] using below
  · cases again

namespace TaskStatus

theorem replacedTypes (c : Condition) (cs : List Condition) :
    (replaceCondition c cs).map Condition.type =
      if c.type ∈ cs.map Condition.type then cs.map Condition.type
      else cs.map Condition.type ++ [c.type] := by
  induction cs with
  | nil => rfl
  | cons old rest ih =>
    unfold replaceCondition
    by_cases same : old.type = c.type
    · have type : (if old.status == c.status then
          { c with lastTransitionTime := old.lastTransitionTime } else c).type = c.type := by
        split <;> rfl
      simp only [same, beq_self_eq_true, if_true, List.map_cons, type, List.mem_cons, true_or]
    · have other : (old.type == c.type) = false := by simpa using same
      simp only [other, Bool.false_eq_true, if_false, List.map_cons, ih, List.mem_cons,
        Ne.symm same, false_or]
      split <;> rfl

theorem distinctReplaced {cs : List Condition} (c : Condition)
    (distinct : (cs.map Condition.type).Nodup) :
    ((replaceCondition c cs).map Condition.type).Nodup := by
  rw [replacedTypes]
  split
  · exact distinct
  · rename_i fresh
    refine List.nodup_append.mpr ⟨distinct, by simp, ?_⟩
    intro a inside b single same
    rw [List.mem_singleton.mp single] at same
    exact fresh (same ▸ inside)

theorem distinctFiltered {cs : List Condition} (type : String)
    (distinct : (cs.map Condition.type).Nodup) :
    ((cs.filter (·.type != type)).map Condition.type).Nodup :=
  distinct.sublist (List.filter_sublist.map _)

end TaskStatus

namespace Coherent
open Reconcile TaskStatus

variable {k : Key} {s : TaskStatus} {now : Instant}

theorem fresh (k : Key) : Coherent k TaskStatus.fresh where
  shape := ⟨rfl, rfl, rfl, rfl, rfl, rfl, rfl, rfl⟩
  starts := ⟨fun _ => rfl, fun _ => rfl⟩
  backoff := by simp [TaskStatus.fresh]
  conditions := .nil

theorem untouched (h : Coherent k s) (phase : s.phase.getD .pending = .pending) : Untouched s := by
  have shape := h.shape
  rwa [phase] at shape

theorem inLine (h : Coherent k s) (phase : s.phase.getD .pending = .queued) : InLine s := by
  have shape := h.shape
  rwa [phase] at shape

theorem underway (h : Coherent k s) (phase : s.phase.getD .pending = .running) : Underway k s := by
  have shape := h.shape
  rwa [phase] at shape

theorem seen (h : Coherent k s) (generation : UInt64) :
    Coherent k { s with observedGeneration := generation } where
  shape := h.shape.relabelled s.phase s.conditions generation
  starts := h.starts
  backoff := h.backoff
  conditions := h.conditions

theorem blocked (h : Coherent k s) (cause : Block) :
    Coherent k (blockedStatus now (s.phase.getD .pending) cause s) where
  shape := h.shape.relabelled (some _) _ s.observedGeneration
  starts := h.starts
  backoff := by
    intro set
    have queued : s.phase = some .queued := h.backoff set
    change some (s.phase.getD .pending) = some .queued
    rw [queued]
    rfl
  conditions := distinctReplaced _ h.conditions

theorem waiting (h : Coherent k s) (active : (s.phase.getD .pending).isTerminal = false)
    (idle : s.phase.getD .pending ≠ .running) :
    s.workloadName = none ∧ s.completionTime = none ∧ s.terminalReason = none ∧
      s.exitCode = none ∧ s.attempts + 1 ≠ 0 := by
  cases phase : s.phase.getD .pending with
  | pending =>
    have shape := h.untouched phase
    refine ⟨shape.workload, shape.completion, shape.reason, shape.exit, ?_⟩
    rw [shape.attempts]
    decide
  | queued =>
    have shape := h.inLine phase
    exact ⟨shape.workload, shape.completion, shape.reason, shape.exit, shape.countable⟩
  | running => exact absurd phase idle
  | completed | failed => rw [phase] at active; cases active

theorem queued (h : Coherent k s) (active : (s.phase.getD .pending).isTerminal = false)
    (idle : s.phase.getD .pending ≠ .running) (w : Wait) : Coherent k (queuedStatus now w s) where
  shape := by
    obtain ⟨workload, completion, reason, exit, countable⟩ := h.waiting active idle
    exact InLine.mk rfl workload completion reason exit countable
  starts := h.starts
  backoff := fun _ => rfl
  conditions := distinctReplaced _ (distinctReplaced _ h.conditions)

theorem running (h : Coherent k s) (active : (s.phase.getD .pending).isTerminal = false)
    (idle : s.phase.getD .pending ≠ .running) {spec : WorkloadSpec}
    (attempt : spec.attempt = s.attempts + 1)
    (key : spec.key = ⟨k.ns, WorkloadSpec.nameFor k spec.attempt⟩) :
    Coherent k (runningStatus now spec s) := by
  obtain ⟨-, completion, reason, exit, countable⟩ := h.waiting active idle
  have counted : spec.attempt ≠ 0 := by rw [attempt]; exact countable
  have place : spec.key.ns = k.ns := by rw [key]
  have name : spec.key.name = WorkloadSpec.nameFor k spec.attempt := by rw [key]
  refine ⟨?_, ?_, ?_, ?_⟩
  · exact Underway.mk (onePositive counted) (congrArg some name) (congrArg some place) rfl rfl rfl
      completion reason exit
  · exact ⟨fun zero => absurd zero counted, fun none => nomatch none⟩
  · exact fun set => nomatch set
  · exact distinctReplaced _ (distinctFiltered _ h.conditions)

theorem completed (h : Coherent k s) (phase : s.phase.getD .pending = .running) (outputs : TextMap) :
    Coherent k (completedStatus now outputs s) := by
  have shape := h.underway phase
  refine ⟨Succeeded.mk rfl shape.reason shape.exit, h.starts, ?_, distinctReplaced _ h.conditions⟩
  intro set
  have set : s.retryAfter.isSome = true := set
  rw [shape.backoff] at set
  cases set

theorem retried (h : Coherent k s) (phase : s.phase.getD .pending = .running) {p : RetryPolicy}
    {reason : TerminalReason} {delay : Duration} (again : p.decide reason s.attempts = .retryIn delay)
    (retryAt : Instant) (message : String) : Coherent k (retryStatus now retryAt message s) := by
  have shape := h.underway phase
  have countable := countableBelow (RetryPolicy.retriesBelow again)
  exact ⟨InLine.mk shape.agent rfl shape.completion shape.reason shape.exit countable, h.starts,
    fun _ => rfl, distinctReplaced _ (distinctReplaced _ h.conditions)⟩

theorem failed (h : Coherent k s) (phase : s.phase.getD .pending = .running)
    (reason : TerminalReason) (container : Option Termination) (message : String) :
    Coherent k (failedStatus now reason container message s) := by
  have shape := h.underway phase
  refine ⟨GivenUp.mk rfl rfl, h.starts, ?_, distinctReplaced _ h.conditions⟩
  intro set
  have set : s.retryAfter.isSome = true := set
  rw [shape.backoff] at set
  cases set

theorem stopped (h : Coherent k s) (active : (s.phase.getD .pending).isTerminal = false) :
    Coherent k (stoppedStatus now s) := by
  have unended : s.terminalReason = none ∧ s.exitCode = none := by
    cases phase : s.phase.getD .pending with
    | pending => exact ⟨(h.untouched phase).reason, (h.untouched phase).exit⟩
    | queued => exact ⟨(h.inLine phase).reason, (h.inLine phase).exit⟩
    | running => exact ⟨(h.underway phase).reason, (h.underway phase).exit⟩
    | completed | failed => rw [phase] at active; cases active
  refine ⟨Succeeded.mk rfl unended.1 unended.2, h.starts, ?_,
    distinctReplaced _ (distinctReplaced _ h.conditions)⟩
  exact fun set => nomatch set

end Coherent
end Turnstile
