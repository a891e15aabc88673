import Turnstile.Proofs.Reconcile.Rounds
import Turnstile.Proofs.Since
import Turnstile.Proofs.Task.Coherence
import Turnstile.Proofs.Time
/-! How often a task starts, and when. Its attempts are its starts; one that waits has
never started, or has the backoff of its last failure still before it. -/
namespace Turnstile
open Reconcile

theorem RetryPolicy.retriesOnly {p : RetryPolicy} {reason : TerminalReason} {attempts : UInt32}
    {delay : Duration} (again : p.decide reason attempts = .retryIn delay) :
    reason = .infrastructureError ∧ delay = p.delay attempts := by
  unfold decide at again
  split at again
  · rename_i both
    have retryable := (Bool.and_eq_true_iff.mp both).1
    cases reason with
    | infrastructureError => exact ⟨rfl, (RetryDecision.retryIn.inj again).symm⟩
    | agentExitNonZero | unknown => cases retryable
  · cases again

structure Round.Retries (p : Round) (key : Key) (reason : TerminalReason) (attempts : UInt32) : Prop where
  failure : ∃ t run observed, p.before.store.get? .task key = some t ∧ t.phase = .running ∧
    t.status.attempts = attempts ∧ recorded? t = some run ∧
    (p.before.workloads.status p.now run).1 = some observed ∧ observed.state = .failed ∧
    Termination.classify observed.container = reason
  requeued : p.after.phase? key = some .queued

def startsOf (key : Key) (log : List Round) : Nat := log.countP (·.starts key)

/-- What others may do to a task: make it, fresh, and change all of it but its status. -/
def Spares (key : Key) (b after : Backend) : Prop :=
  match b.store.get? .task key with
  | none => ∀ t, after.store.get? .task key = some t → t.status = .fresh
  | some t => ∃ u, after.store.get? .task key = some u ∧ u.status = t.status

/-- A status that waits has never started, or may start again and has the backoff of its
last failure. -/
def Waits (p : RetryPolicy) (key : Key) (log : List Round) (s : TaskStatus) : Prop :=
  s.attempts = 0 ∨ (s.attempts < p.maxAttempts ∧ ∃ retryAt, s.retryAfter = some retryAt ∧
    Since (fun f => f.Retries key .infrastructureError s.attempts ∧
        f.now.after (p.delay s.attempts) = retryAt)
      (fun f => f.starts key = true) log)

/-- Every start but the first has a failure of the platform before it and after the start
before, with attempts left and its backoff over. -/
def Spaced (p : RetryPolicy) (key : Key) (log : List Round) : Prop :=
  ∀ earlier q later, log = earlier ++ q :: later → q.starts key = true → startsOf key earlier ≠ 0 →
    ∃ attempts, attempts < p.maxAttempts ∧
      Since (fun f => f.Retries key .infrastructureError attempts ∧
          f.now.after (p.delay attempts) ≤ q.now)
        (fun f => f.starts key = true) earlier

structure Tried (p : RetryPolicy) (key : Key) (log : List Round) (b : Backend) : Prop where
  unborn : b.store.get? .task key = none → startsOf key log = 0
  counted : ∀ t, b.store.get? .task key = some t → t.status.attempts.toNat = startsOf key log
  few : startsOf key log ≤ max 1 p.maxAttempts.toNat
  waits : ∀ t, b.store.get? .task key = some t → t.phase.isTerminal = false → t.phase ≠ .running →
    Waits p key log t.status
  spaced : Spaced p key log

section
variable {p : RetryPolicy} {key : Key} {log : List Round} {q : Round} {b after : Backend}
  {s s' : TaskStatus}

theorem startsOfMore : startsOf key (log ++ [q]) = startsOf key log + if q.starts key then 1 else 0 := by
  simp [startsOf, List.countP_append, List.countP_singleton]

namespace Waits

theorem later (h : Waits p key log s) (rests : q.starts key = false)
    (attempts : s'.attempts = s.attempts) (backoff : s'.retryAfter = s.retryAfter) :
    Waits p key (log ++ [q]) s' := by
  unfold Waits
  rw [attempts, backoff]
  rcases h with never | ⟨below, retryAt, set, since⟩
  · exact .inl never
  · refine .inr ⟨below, retryAt, set, sinceMore.mpr (.inr ⟨since, ?_⟩)⟩
    rw [rests]
    exact Bool.false_ne_true

theorem countable (h : Waits p key log s) :
    s.attempts.toNat + 1 ≤ max 1 p.maxAttempts.toNat ∧ s.attempts.toNat + 1 < UInt32.size := by
  rcases h with never | ⟨below, -⟩
  · rw [never]
    exact ⟨Nat.le_max_left .., by decide⟩
  · have order := UInt32.lt_iff_toNat_lt.mp below
    have top : p.maxAttempts.toNat < UInt32.size := p.maxAttempts.toNat_lt
    omega

end Waits

namespace Spaced

theorem rested (h : Spaced p key log) (rests : q.starts key = false) : Spaced p key (log ++ [q]) := by
  intro earlier x later same starts again
  rcases lastSplit same with ⟨-, rfl, -⟩ | ⟨between, -, front⟩
  · rw [rests] at starts
    cases starts
  · exact h earlier x between front starts again

theorem started {t : Task} (h : Spaced p key log) (waits : Waits p key log t.status)
    (counted : t.status.attempts.toNat = startsOf key log) (due : Due q.now t) :
    Spaced p key (log ++ [q]) := by
  intro earlier x later same starts again
  rcases lastSplit same with ⟨-, rfl, rfl⟩ | ⟨between, -, front⟩
  · rcases waits with never | ⟨below, retryAt, set, since⟩
    · rw [never] at counted
      exact absurd counted.symm again
    · obtain ⟨before, f, rest, split, ⟨retries, backoff⟩, quiet⟩ := since
      have passed : retryAt ≤ x.now := Instant.notEarly (due retryAt set)
      rw [← backoff] at passed
      exact ⟨t.status.attempts, below, before, f, rest, split, ⟨retries, passed⟩, quiet⟩
  · exact h earlier x between front starts again

end Spaced

namespace Tried

theorem between (h : Tried p key log b) (spares : Spares key b after) : Tried p key log after := by
  unfold Spares at spares
  split at spares
  · rename_i absent
    have none : startsOf key log = 0 := h.unborn absent
    refine ⟨fun _ => none, fun t found => ?_, h.few, fun t found _ _ => .inl ?_, h.spaced⟩
    · rw [spares t found, none]
      rfl
    · rw [spares t found]
      rfl
  · rename_i t stored
    obtain ⟨u, found, same⟩ := spares
    have only : ∀ other, after.store.get? .task key = some other → other = u := by
      intro other there
      rw [found] at there
      exact (Option.some.inj there).symm
    refine ⟨fun absent => ?_, fun other there => ?_, h.few, fun other there active idle => ?_, h.spaced⟩
    · rw [found] at absent
      cases absent
    · rw [only other there, same]
      exact h.counted t stored
    · rw [only other there] at active idle ⊢
      rw [same]
      unfold Task.phase at active idle
      rw [same] at active idle
      exact h.waits t stored active idle

theorem rested (h : Tried p key log q.before) (rests : q.starts key = false)
    (stays : q.after.store.get? .task key = none → q.before.store.get? .task key = none)
    (origin : ∀ u, q.after.store.get? .task key = some u → ∃ t,
      q.before.store.get? .task key = some t ∧ u.status.attempts = t.status.attempts ∧
      (u.phase.isTerminal = false → u.phase ≠ .running → Waits p key (log ++ [q]) u.status)) :
    Tried p key (log ++ [q]) q.after := by
  have same : startsOf key (log ++ [q]) = startsOf key log := by
    rw [startsOfMore, rests]
    rfl
  refine ⟨fun absent => ?_, fun u found => ?_, ?_, fun u found => ?_, h.spaced.rested rests⟩
  · rw [same]
    exact h.unborn (stays absent)
  · obtain ⟨t, stored, attempts, -⟩ := origin u found
    rw [same, attempts]
    exact h.counted t stored
  · rw [same]
    exact h.few
  · obtain ⟨t, -, -, waits⟩ := origin u found
    exact waits

theorem started (h : Tried p key log q.before) (starts : q.starts key = true) :
    Tried p key (log ++ [q]) q.after := by
  obtain ⟨t, resolved, version, stored, active, idle, due, -, -, -, after, -⟩ := Round.started starts
  have waits := h.waits t stored active idle
  have counted := h.counted t stored
  obtain ⟨few, countable⟩ := waits.countable
  have more : startsOf key (log ++ [q]) = startsOf key log + 1 := by
    rw [startsOfMore, starts]
    rfl
  have only : ∀ u, q.after.store.get? .task key = some u →
      u = t.withStatus version (t.changed (runningStatus q.now (nextRun t resolved))) := by
    intro u found
    rw [after] at found
    exact (Option.some.inj found).symm
  refine ⟨fun absent => ?_, fun u found => ?_, ?_, fun u found _ idle => ?_,
    h.spaced.started waits counted due⟩
  · rw [after] at absent
    cases absent
  · rw [only u found, more, ← counted]
    change (t.status.attempts + 1).toNat = _
    rw [UInt32.toNat_add]
    exact Nat.mod_eq_of_lt countable
  · rw [more, ← counted]
    exact few
  · rw [only u found] at idle
    exact absurd rfl idle

theorem round (h : Tried p key log q.before)
    (kept : q.key = key → ∀ t, q.before.store.get? .task key = some t → policyOf q.reconciler t = p) :
    Tried p key (log ++ [q]) q.after := by
  cases rests : q.starts key with
  | true => exact h.started rests
  | false =>
    refine h.rested rests q.changed.gone fun u found => ?_
    obtain ⟨t, stored, same | ⟨own, version, change, write, same⟩⟩ := q.changed.origin found
    · subst same
      exact ⟨u, stored, rfl, fun active idle => (h.waits u stored active idle).later rests rfl rfl⟩
    · subst same
      refine ⟨t, stored, ?_⟩
      generalize q.after.workloads = w at write
      cases write with
      | blocked active idle | queued active idle =>
        exact ⟨rfl, fun _ _ => (h.waits t stored active idle).later rests rfl rfl⟩
      | completed | failed | stopped => exact ⟨rfl, fun active => nomatch active⟩
      | started _ idle =>
        rw [Round.startsRunning stored found idle rfl] at rests
        cases rests
      | @retried run observed delay message _ running recorded shown ended again =>
        rw [kept own.symm t stored] at again
        obtain ⟨reason, wait⟩ := RetryPolicy.retriesOnly again
        have requeued : q.after.phase? key = some .queued := by
          unfold Backend.phase?
          rw [found]
          rfl
        refine ⟨rfl, fun _ _ => .inr ⟨RetryPolicy.retriesBelow again, _, rfl, sinceMore.mpr (.inl ?_)⟩⟩
        exact ⟨⟨⟨t, run, observed, stored, running, rfl, recorded, shown, ended, reason⟩, requeued⟩,
          by rw [wait]; rfl⟩

end Tried

theorem Chronicle.tried {first : Backend} (run : Chronicle (Spares key) first log b)
    (fresh : ∀ t, first.store.get? .task key = some t → t.status = .fresh)
    (kept : ∀ q ∈ log, q.key = key → ∀ t, q.before.store.get? .task key = some t →
      policyOf q.reconciler t = p) : Tried p key log b := by
  induction run with
  | start =>
    refine ⟨fun _ => rfl, fun t stored => ?_, Nat.zero_le _, fun t stored _ _ => .inl ?_, ?_⟩
    · rw [fresh t stored]
      rfl
    · rw [fresh t stored]
      rfl
    · intro earlier x later same
      cases earlier <;> cases same
  | between past next ih => exact (ih kept).between next
  | round past r now key ih =>
    have before := ih fun q inside => kept q (List.mem_append_left _ inside)
    exact before.round (kept _ (by simp))

/-- Whatever becomes of a task's runs, and whatever others do to all but its status: it
starts as often as its attempts say, and no more often than its policy allows; another
start can still be counted while it waits; and each start after the first comes after a
failure of the platform, and no sooner than the backoff that its policy sets. -/
theorem retriesBounded {first : Backend} (run : Chronicle (Spares key) first log b)
    (fresh : ∀ t, first.store.get? .task key = some t → t.status = .fresh)
    (kept : ∀ q ∈ log, q.key = key → ∀ t, q.before.store.get? .task key = some t →
      policyOf q.reconciler t = p) :
    startsOf key log ≤ max 1 p.maxAttempts.toNat ∧
    (∀ t, b.store.get? .task key = some t → t.status.attempts.toNat = startsOf key log ∧
      (t.phase.isTerminal = false → t.phase ≠ .running → t.status.attempts.toNat + 1 < UInt32.size)) ∧
    ∀ earlier q later, log = earlier ++ q :: later → q.starts key = true → startsOf key earlier ≠ 0 →
      ∃ attempts, attempts < p.maxAttempts ∧
        Since (fun f => f.Retries key .infrastructureError attempts ∧
            f.now.after (p.delay attempts) ≤ q.now)
          (fun f => f.starts key = true) earlier := by
  have h := run.tried fresh kept
  refine ⟨h.few, fun t stored => ⟨h.counted t stored, fun active idle => ?_⟩, h.spaced⟩
  exact (h.waits t stored active idle).countable.2

end

theorem sparesSame {key : Key} {b after : Backend} (same : after.store = b.store) :
    Spares key b after := by
  unfold Spares
  rw [same]
  split
  · rename_i absent
    intro t found
    rw [absent] at found
    cases found
  · rename_i t stored
    exact ⟨t, stored, rfl⟩

theorem killedOnceSpaced :
    startsOf ⟨"ns", "task"⟩ (killedOnce (Agent.bare ⟨"ns", "agent"⟩ none) ⟨"ns", "task"⟩) = 2 ∧
    startsOf ⟨"ns", "task"⟩ (killedOnce (Agent.bare ⟨"ns", "agent"⟩ none) ⟨"ns", "task"⟩) ≤
      max 1 RetryPolicy.standard.maxAttempts.toNat ∧
    ∃ f ∈ killedOnce (Agent.bare ⟨"ns", "agent"⟩ none) ⟨"ns", "task"⟩, ∃ attempts,
      f.Retries ⟨"ns", "task"⟩ .infrastructureError attempts := by
  have still : ∀ {b after : Backend}, after.store = b.store → Spares ⟨"ns", "task"⟩ b after := sparesSame
  obtain ⟨b, run⟩ := killedOnceRun still (Agent.bare ⟨"ns", "agent"⟩ none) ⟨"ns", "task"⟩
  have policy : ∀ q ∈ killedOnce (Agent.bare ⟨"ns", "agent"⟩ none) ⟨"ns", "task"⟩,
      (q.before.store.get? .task ⟨"ns", "task"⟩).map (policyOf q.reconciler) = some .standard := by
    decide +kernel
  have made : ((Backend.lone (Agent.bare ⟨"ns", "agent"⟩ none) ⟨"ns", "task"⟩).store.get? .task
      ⟨"ns", "task"⟩).map Task.status = some .fresh := by decide +kernel
  obtain ⟨few, -, spaced⟩ := retriesBounded (p := .standard) run
    (fun t stored => by rw [stored] at made; exact Option.some.inj made)
    (fun q inside _ t stored => by
      have kept := policy q inside
      rw [stored] at kept
      exact Option.some.inj kept)
  refine ⟨by decide +kernel, few, ?_⟩
  obtain ⟨attempts, -, before, f, rest, split, ⟨retries, -⟩, -⟩ :=
    spaced ((killedOnce (Agent.bare ⟨"ns", "agent"⟩ none) ⟨"ns", "task"⟩).take 2) _ [] rfl
      (by decide +kernel) (by decide +kernel)
  have inside : f ∈ (killedOnce (Agent.bare ⟨"ns", "agent"⟩ none) ⟨"ns", "task"⟩).take 2 := by
    rw [split]
    simp
  exact ⟨f, List.mem_of_mem_take inside, attempts, retries⟩

end Turnstile
