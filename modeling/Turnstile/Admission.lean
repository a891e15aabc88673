import Turnstile.Task.Basic
import Turnstile.Agent
/-! The limits under which an agent's tasks start: how many run at once, how
many start within a window, and who comes first. -/
namespace Turnstile

inductive Headroom where
  | unlimited
  | limited (free : Nat)
  deriving DecidableEq, Repr

namespace Headroom

def ofUsage (limit : Option UInt32) (used : Nat) : Headroom :=
  match limit with
  | none => unlimited
  | some max => limited (max.toNat - used)

def exceeds : Headroom → Nat → Bool
  | unlimited, _ => true
  | limited free, n => n < free

end Headroom

namespace Admission

def countedAgainst (agent : Key) (tasks : List Task) : List Task :=
  tasks.filter fun t => t.agentKey? == some agent

def isRunning (t : Task) : Bool := t.phase == .running

def countRunning (agent : Key) (tasks : List Task) : Nat :=
  ((countedAgainst agent tasks).filter isRunning).length

def remainingCapacity (agent : Agent) (tasks : List Task) : Headroom :=
  .ofUsage agent.spec.maxConcurrentTasks (countRunning agent.key tasks)

def isEligible (now : Instant) (t : Task) : Bool :=
  t.phase == .queued && !t.stopRequested && t.status.retryAfter.all (· ≤ now)

def createdOrder : Option Instant → Option Instant → Ordering
  | none, none => .eq
  | none, some _ => .lt
  | some _, none => .gt
  | some a, some b => compare a b

def lineOrder (a b : Task) : Ordering :=
  (createdOrder a.metadata.creationTimestamp b.metadata.creationTimestamp).then (compare a.key b.key)

def queuedAhead (now : Instant) (task : Task) (peers : List Task) : Nat :=
  (peers.filter fun p => p.key != task.key && isEligible now p && lineOrder p task == .lt).length

def maxWindowSeconds : Nat := 100 * 365 * 24 * 3600

def window (q : AgentQuota) : Duration := .ofSeconds (min q.windowSeconds.toNat maxWindowSeconds)

def startsWithin (agent : Key) (tasks : List Task) (window : Duration) (now : Instant) : List Instant :=
  let since := now.shift (-(window.nanoseconds : Int))
  (((countedAgainst agent tasks).filterMap (·.status.startTime)).filter
    fun t => decide (since ≤ t) && decide (t ≤ now)).mergeSort fun a b => decide (a ≤ b)

structure QuotaCheck where
  remaining : Headroom
  nextExpiry : Option Instant
  deriving DecidableEq, Repr

namespace QuotaCheck

def unlimited : QuotaCheck := ⟨.unlimited, none⟩

def isBlocked (c : QuotaCheck) : Bool := !c.remaining.exceeds 0

end QuotaCheck

def checkQuota (agent : Key) (quota : AgentQuota) (tasks : List Task) (now : Instant) : QuotaCheck :=
  let starts := startsWithin agent tasks (window quota) now
  ⟨.ofUsage (some quota.maxTaskStarts) starts.length,
    starts.head?.map fun oldest => oldest.shift (window quota).nanoseconds⟩

end Admission
end Turnstile
