import Turnstile.Controller.Tasks
import Turnstile.Proofs.Procedure
import Turnstile.Proofs.Reconcile.Noted
import Turnstile.Proofs.Reconcile.Visit
/-! The controller's loop and its workers between two steps: which keys the loop
has still to add, and which a worker owes to the queue. -/
namespace Turnstile
open TaskController

namespace Reconcile
variable {r : Reconciler} {now : Instant} {b after : Backend} {task t : Task}

theorem notedEnds {change : TaskStatus → TaskStatus} (stored : b.store.get? .task task.key = some task)
    (ends : ((task.changed change).phase.getD .pending).isTerminal = true)
    (found : (b.noted task change).store.get? .task task.key = some t) : t.phase.isTerminal = true := by
  obtain ⟨version, written, -⟩ := Backend.notedCount change stored
  rw [written] at found
  cases found
  exact ends

theorem doneEnds {key : Key} (done : ((r.reconcile now key).run now b).1 = .ok .done)
    (found : ((r.reconcile now key).run now b).2.store.get? .task key = some t) :
    t.phase.isTerminal = true := by
  obtain ⟨outcome, result, visit⟩ := reconcileVisits r now b key
  rw [done] at result
  cases result
  generalize ((r.reconcile now key).run now b).2 = after at visit found
  have own : ∀ {task}, b.store.get? .task key = some task → task.key = key :=
    fun stored => b.store.tasks.keyed stored
  cases visit with
  | gone absent => rw [absent] at found; cases found
  | ended stored terminal =>
    rw [stored] at found
    cases found
    exact terminal
  | @stopped task stored active asked =>
    cases own stored
    have still : ((recorded? task).elim b (removed b)).store.get? .task task.key = some task := by
      cases recorded? task <;> exact stored
    exact notedEnds still rfl found
  | observed stored free running look =>
    cases own stored
    cases look with
    | unrecorded => exact notedEnds stored rfl found
    | vanished => exact notedEnds (b := polled now b _) stored rfl found
    | succeeded => exact notedEnds (b := polled now b _) stored rfl found
    | failed => exact notedEnds (b := polled now b _) stored rfl found
  | considered stored free active idle gate => cases gate

end Reconcile

inductive Cause where
  | start
  | task (notice : Notice .task)
  | agent (notice : Notice .agent)
  | resync

namespace Cause

def first : Cause → List Key
  | task (.event e) => wokenAtOnce e
  | _ => []

def others : Cause → Procedure (List Key)
  | task (.event e) => wokenPeers e
  | agent notice => wokenByAgents notice
  | start | resync | task .lagged => unfinished

theorem wokenInTurn (notice : Notice .task) :
    wokenByTasks notice = (do
      let keys ← (task notice).others
      pure ((task notice).first ++ keys)) := by
  cases notice with
  | lagged => exact (Procedure.bindPure _).symm
  | event e => rfl

end Cause

/-- What the loop is at: it waits, or it adds keys, before or after it asked for more. -/
inductive Loop where
  | waiting
  | adding (cause : Cause) (keys : List Key) (asked : Bool)

namespace Loop

def begin (cause : Cause) : Loop := adding cause cause.first false

/-- Whether a key comes into the queue by what a notice of the tasks, or the first look
at them, has still to add. -/
def Covers (key : Key) : Loop → Prop
  | adding (.task (.event _)) keys asked => asked = false ∧ key ∈ keys
  | adding (.task .lagged) keys asked | adding .start keys asked => asked = false ∨ key ∈ keys
  | _ => False

variable {cause : Cause} {key k : Key} {keys : List Key} {asked : Bool}

theorem coversRest (covers : (adding cause (k :: keys) asked).Covers key) :
    key = k ∨ (adding cause keys asked).Covers key := by
  have listed (all : asked = false ∨ key ∈ k :: keys) : key = k ∨ (asked = false ∨ key ∈ keys) := by
    rcases all with early | inside
    · exact .inr (.inl early)
    · exact (List.mem_cons.mp inside).imp_right .inr
  cases cause with
  | start => exact listed covers
  | agent | resync => exact covers.elim
  | task notice =>
    cases notice with
    | lagged => exact listed covers
    | event e => exact (List.mem_cons.mp covers.2).imp_right fun inside => ⟨covers.1, inside⟩

theorem coversNothing : ¬ (adding cause [] true).Covers key := by
  intro covers
  cases cause with
  | start => rcases covers with early | inside <;> contradiction
  | agent | resync => exact covers
  | task notice =>
    cases notice with
    | lagged => rcases covers with early | inside <;> contradiction
    | event e => exact nomatch covers.2

end Loop

inductive Hand where
  | free
  | took (key : Key)
  | reconciled (key : Key) (result : Except ReconcileError ReconcileOutcome)
  | requeued (key : Key)

namespace Hand

def key? : Hand → Option Key
  | free => none
  | took key | reconciled key _ | requeued key => some key

/-- Whether a key has still to be looked at, or to be delayed. -/
def Owes (key : Key) : Hand → Prop
  | took held => held = key
  | reconciled held result => held = key ∧ result ≠ .ok .done
  | _ => False

end Hand

end Turnstile
