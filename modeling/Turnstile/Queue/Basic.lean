import Turnstile.Time.Instant
/-! The work queue. A key waits at most once, is handed to one worker at a time,
and one that is added while it is being processed waits again once it is
released. Delayed keys join when their deadline, counted from the start of the
clock, is reached. -/
namespace Turnstile

structure Delayed (K : Type) where
  key : K
  deadline : Duration
  deriving DecidableEq, Repr

structure WorkQueue (K : Type) where
  ready : List K
  /-- keys added since they were last handed out -/
  dirty : List K
  processing : List K
  delayed : List (Delayed K)
  isShutdown : Bool
  deriving DecidableEq, Repr

namespace WorkQueue

variable {K : Type} [DecidableEq K]

def empty : WorkQueue K := ⟨[], [], [], [], false⟩

instance : Inhabited (WorkQueue K) := ⟨empty⟩

def hold (k : K) (ks : List K) : List K := if k ∈ ks then ks else k :: ks

def add (q : WorkQueue K) (k : K) : WorkQueue K :=
  if q.isShutdown || k ∈ q.dirty then q
  else if k ∈ q.processing then { q with dirty := k :: q.dirty }
  else { q with dirty := k :: q.dirty, ready := q.ready ++ [k] }

def addAll (q : WorkQueue K) (ks : List K) : WorkQueue K := ks.foldl add q

def deadline? (q : WorkQueue K) (k : K) : Option Duration :=
  (q.delayed.find? fun d => d.key == k).map (·.deadline)

/-- Delays a key unless it is delayed already and no longer than this. The deadline has no end: that
a clock of the system has none past 64-bit seconds, and a delay that leads there fails, is left out. -/
def addAfter (q : WorkQueue K) (now : Duration) (k : K) (delay : Duration) : WorkQueue K :=
  if delay = .zero then q.add k
  else if q.isShutdown then q
  else
    let deadline : Duration := ⟨now.nanoseconds + delay.nanoseconds⟩
    if (q.deadline? k).any (· ≤ deadline) then q
    else { q with delayed := q.delayed.filter (fun d => d.key != k) ++ [⟨k, deadline⟩] }

def millisecond : Nat := 1000000

/-- Timers have whole milliseconds and are never early. -/
def isDue (now : Duration) (d : Delayed K) : Bool :=
  decide ((d.deadline.nanoseconds + (millisecond - 1)) / millisecond ≤ now.nanoseconds / millisecond)

def earlier (a b : Delayed K) : Bool :=
  decide ((a.deadline.nanoseconds + (millisecond - 1)) / millisecond
    ≤ (b.deadline.nanoseconds + (millisecond - 1)) / millisecond)

def due (q : WorkQueue K) (now : Duration) : List K :=
  ((q.delayed.filter (isDue now)).mergeSort earlier).map (·.key)

def expire (q : WorkQueue K) (now : Duration) : WorkQueue K :=
  { q with delayed := q.delayed.filter fun d => !isDue now d }.addAll (q.due now)

def next? (q : WorkQueue K) : Option (K × WorkQueue K) :=
  if q.isShutdown then none
  else
    match q.ready with
    | [] => none
    | k :: rest =>
      some (k, { q with
        ready := rest
        dirty := q.dirty.filter (· != k)
        processing := hold k q.processing })

def release (q : WorkQueue K) (k : K) : WorkQueue K :=
  let q := { q with processing := q.processing.filter (· != k) }
  if k ∈ q.dirty && !q.isShutdown then { q with ready := q.ready ++ [k] } else q

def shutdown (q : WorkQueue K) : WorkQueue K := { q with isShutdown := true }

def size (q : WorkQueue K) : Nat := q.ready.length

theorem nextShrinks {q r : WorkQueue K} {k : K} (h : q.next? = some (k, r)) :
    r.ready.length + 1 = q.ready.length := by
  unfold next? at h
  split at h
  · cases h
  · split at h
    · cases h
    · rename_i same
      cases h
      simp [same]

end WorkQueue
end Turnstile
