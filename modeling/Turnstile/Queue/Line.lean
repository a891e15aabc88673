import Turnstile.Queue.Basic
/-! Workers that wait for a key. They stand in line; every key that becomes
ready calls the first of them, and a worker that finds nothing when it is called
goes to the end. -/
namespace Turnstile

structure WorkerLine (K : Type) where
  queue : WorkQueue K
  line : List Nat
  called : List Nat
  results : Array (Option (Option K))
  deriving DecidableEq, Repr

namespace WorkerLine

variable {K : Type} [DecidableEq K]

def empty : WorkerLine K := ⟨.empty, [], [], #[]⟩

def call (w : WorkerLine K) : WorkerLine K :=
  match w.line with
  | [] => w
  | worker :: rest => { w with line := rest, called := w.called ++ [worker] }

def change (w : WorkerLine K) (f : WorkQueue K → WorkQueue K) : WorkerLine K :=
  let queue := f w.queue
  let w := if w.queue.ready.length < queue.ready.length then w.call else w
  { w with queue }

/-- Lets every called worker look. One that takes a key calls another if keys are left. -/
def serve (w : WorkerLine K) : WorkerLine K :=
  match _hc : w.called with
  | [] => w
  | worker :: rest =>
    if w.queue.isShutdown then
      serve { w with called := rest, results := w.results.setIfInBounds worker (some none) }
    else
      match _hq : w.queue.next? with
      | none => serve { w with called := rest, line := w.line ++ [worker] }
      | some (k, queue) =>
        let results := w.results.setIfInBounds worker (some (some k))
        if queue.ready.isEmpty then serve { w with queue, results, called := rest }
        else
          serve { w with
            queue, results
            line := w.line.drop 1
            called := rest ++ w.line.take 1 }
termination_by 2 * w.queue.ready.length + w.called.length
decreasing_by
  · simp [_hc]
  · simp [_hc]
  · have := WorkQueue.nextShrinks _hq
    simp [_hc]; omega
  · have := WorkQueue.nextShrinks _hq
    have : (w.line.take 1).length ≤ 1 := List.length_take_le 1 w.line
    simp only [_hc, List.length_append, List.length_cons]; omega

def add (w : WorkerLine K) (k : K) : WorkerLine K := (w.change (·.add k)).serve

def addAfter (w : WorkerLine K) (now : Duration) (k : K) (delay : Duration) : WorkerLine K :=
  (w.change (·.addAfter now k delay)).serve

def release (w : WorkerLine K) (k : K) : WorkerLine K := (w.change (·.release k)).serve

def shutdown (w : WorkerLine K) : WorkerLine K :=
  serve { w with queue := w.queue.shutdown, called := w.called ++ w.line, line := [] }

def expire (w : WorkerLine K) (now : Duration) : WorkerLine K :=
  let due := w.queue.due now
  let w := { w with queue := { w.queue with
    delayed := w.queue.delayed.filter fun d => !WorkQueue.isDue now d } }
  (due.foldl (fun w k => w.change (·.add k)) w).serve

def wait (w : WorkerLine K) : WorkerLine K :=
  serve { w with called := w.called ++ [w.results.size], results := w.results.push none }

def take (w : WorkerLine K) : Option K × WorkerLine K :=
  match w.queue.next? with
  | none => (none, w)
  | some (k, queue) =>
    let w := { w with queue }
    (some k, (if queue.ready.isEmpty then w else w.call).serve)

end WorkerLine
end Turnstile
