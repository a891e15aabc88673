import Turnstile.Proofs.Procedure
import Turnstile.Proofs.Reconcile.Noted
import Turnstile.Proofs.Reconcile.Visit
/-! What a reconcile writes, whatever it is answered. It writes statuses only, each
one that a task it was told of may take, so that it never refuses a transition. -/
namespace Turnstile

def Phase.successors : Phase → List Phase
  | pending => [queued, running, completed, failed]
  | queued => [running, completed, failed]
  | running => [queued, completed, failed]
  | completed | failed => []

theorem Phase.canBecomeIff {p q : Phase} : p.canBecome q = true ↔ p = q ∨ q ∈ p.successors := by
  cases p <;> cases q <;> decide

structure Task.MayTake (task : Task) (next : TaskStatus) : Prop where
  active : task.phase.isTerminal = false
  follows : task.phase.canBecome (next.phase.getD .pending) = true

def Told.task? : Told → Option Task
  | ⟨.get .task _, .ok (some task)⟩ => some task
  | _ => none

def Call.Looks : Call → Prop
  | .get k _ => k ≠ .task
  | .list .. => True
  | _ => False

namespace Reconcile
open Procedure

def MayWrite (known : List Task) : Call → Prop
  | .updateStatus .task o => ∃ task ∈ known, ∃ next, o = { task with status := next } ∧ task.MayTake next
  | .create .. | .update .. | .updateStatus .. | .delete .. => False
  | .get .. | .list .. | .createWorkload _ | .workloadStatus _ | .deleteWorkload _ => True

def Sound {α : Type} (r : Except ReconcileError α) : Prop :=
  ∀ key p q, r ≠ .error (.invalidTransition key p q)

def Confined {α : Type} (may : Call → Prop) (p : Step α) : Prop :=
  Obeys (fun _ => may) (fun _ r => Sound r) [] p.run

namespace Confined
variable {α β : Type} {may : Call → Prop}

theorem pure (a : α) : Confined may (Pure.pure a) := nofun

theorem throw {e : ReconcileError} (other : ∀ key p q, e ≠ .invalidTransition key p q) :
    Confined may (MonadExcept.throw e : Step α) :=
  fun key p q same => other key p q (Except.error.inj same)

theorem bind {p : Step α} {f : α → Step β} (first : Confined may p)
    (rest : ∀ a, Confined may (f a)) : Confined may (p >>= f) := by
  refine Obeys.bind (first.weaken fun told r sound => ?_)
  cases r with
  | ok a => exact obeysAnyTold (rest a)
  | error e => exact fun key p q same => sound key p q (congrArg Except.error (Except.error.inj same))

theorem ofStore {p : Procedure (Except StoreError α)} (only : Only may p) :
    Confined may (ofStore p) := by
  refine Obeys.bind (only.weaken fun told r _ => ?_)
  cases r <;> exact nofun

theorem ofWorkload {p : Procedure (Except WorkloadError α)} (only : Only may p) :
    Confined may (ofWorkload p) := by
  refine Obeys.bind (only.weaken fun told r _ => ?_)
  cases r <;> exact nofun

theorem lift {p : Procedure α} (only : Only may p) : Confined may (ExceptT.lift p) :=
  Obeys.bind (only.weaken fun _ _ _ => nofun)

end Confined

section
variable {task : Task} {agent : Agent} {now : Instant}

theorem getLooks {k : Kind} {key : Key} (other : k ≠ .task) : Confined Call.Looks (get k key) :=
  .ofStore (onlyAsk other)

theorem listLooks {key : Key} : Confined Call.Looks (listTasks key) :=
  .bind (.ofStore (onlyAsk trivial)) fun _ => .pure _

theorem effectiveSpecLooks : Confined Call.Looks (effectiveSpec task) := by
  unfold effectiveSpec
  split
  · exact .pure _
  · refine .bind (getLooks nofun) fun found => ?_
    cases found <;> exact .pure _

theorem resolveLooks : Confined Call.Looks (resolve task) := by
  refine .bind effectiveSpecLooks fun found => ?_
  cases found with
  | error cause => exact .pure _
  | ok spec =>
    dsimp only
    split
    · exact .pure _
    · refine .bind (getLooks nofun) fun found => ?_
      cases found with
      | none => exact .pure _
      | some agent =>
        dsimp only
        split <;> exact .pure _

theorem capacityLooks : Confined Call.Looks (capacity agent) := by
  unfold capacity
  split
  · exact .pure _
  · exact .bind listLooks fun _ => .pure _

theorem quotaLooks : Confined Call.Looks (quota agent now) := by
  unfold quota
  split
  · exact .pure _
  · exact .bind listLooks fun _ => .pure _

theorem declaredLooks : Confined Call.Looks (declaredOutputs task) := by
  unfold declaredOutputs
  split
  · exact .pure _
  · refine .bind (getLooks nofun) fun found => ?_
    cases found <;> exact .pure _

end

def Careful {α : Type} (task : Task) (p : Step α) : Prop :=
  Obeys (fun _ => MayWrite [task]) (fun _ r => Sound r) [] p.run

theorem mayWriteMore {known more : List Task} {c : Call} (inside : ∀ t ∈ known, t ∈ more)
    (may : MayWrite known c) : MayWrite more c := by
  cases c with
  | updateStatus k o =>
    cases k with
    | task =>
      obtain ⟨task, known, next, asked, takes⟩ := may
      exact ⟨task, inside task known, next, asked, takes⟩
    | agent | template | trigger | secret => exact may.elim
  | create | update | delete => exact may.elim
  | get | list | createWorkload | workloadStatus | deleteWorkload => trivial

theorem looksMayWrite {known : List Task} {c : Call} (looks : c.Looks) : MayWrite known c := by
  cases c with
  | get | list => trivial
  | create | update | updateStatus | delete | createWorkload | workloadStatus | deleteWorkload =>
    exact looks.elim

namespace Careful
variable {α β : Type} {task : Task}

theorem known {p : Procedure α} {holds : α → Prop} {told other : List Told}
    (h : Obeys (fun _ => MayWrite [task]) (fun _ => holds) other p)
    (there : task ∈ told.filterMap Told.task?) :
    Obeys (fun told => MayWrite (told.filterMap Told.task?)) (fun _ => holds) told p := by
  induction p generalizing told other with
  | done a => exact h
  | call c next ih =>
    refine ⟨mayWriteMore (by simpa using there) h.1, fun reply => ih reply (h.2 reply) ?_⟩
    rw [List.filterMap_append]
    exact List.mem_append_left _ there

theorem looks {p : Step α} (looks : Confined Call.Looks p) : Careful task p :=
  Obeys.imp looks fun _ => looksMayWrite

theorem pure (a : α) : Careful task (Pure.pure a) := Confined.pure a

theorem throw {e : ReconcileError} (other : ∀ key p q, e ≠ .invalidTransition key p q) :
    Careful task (MonadExcept.throw e : Step α) :=
  Confined.throw other

theorem bind {p : Step α} {f : α → Step β} (first : Careful task p)
    (rest : ∀ a, Careful task (f a)) : Careful task (p >>= f) :=
  Confined.bind first rest

theorem ofStore {p : Procedure (Except StoreError α)} (only : Only (MayWrite [task]) p) :
    Careful task (ofStore p) :=
  Confined.ofStore only

theorem ofWorkload {p : Procedure (Except WorkloadError α)} (only : Only (MayWrite [task]) p) :
    Careful task (ofWorkload p) :=
  Confined.ofWorkload only

theorem lift {p : Procedure α} (only : Only (MayWrite [task]) p) : Careful task (ExceptT.lift p) :=
  Confined.lift only

end Careful

section
variable {task : Task} {now : Instant} {r : Reconciler}

theorem writeCareful {change : TaskStatus → TaskStatus} (active : task.phase.isTerminal = false)
    (follows : task.phase.canBecome ((change task.status).phase.getD .pending) = true) :
    Careful task (writeStatus task change) := by
  unfold writeStatus
  dsimp only
  split
  · rename_i refused
    rw [follows] at refused
    cases refused
  · split
    · exact .pure _
    · have takes : task.MayTake (task.changed change) := ⟨active, follows⟩
      have may : MayWrite [task] (.updateStatus .task { task with status := task.changed change }) :=
        ⟨task, List.mem_singleton_self _, _, rfl, takes⟩
      exact .bind (.ofStore (onlyAsk may)) fun _ => .pure _

section
variable (active : task.phase.isTerminal = false)
include active

theorem stopCareful : Careful task (stop now task) := by
  have ending : Careful task (do
      writeStatus task (stoppedStatus now)
      (Pure.pure .done : Step ReconcileOutcome)) :=
    .bind (writeCareful active (Phase.activeMayEnd active).1) fun _ => .pure _
  unfold stop
  split
  · exact .bind (.ofWorkload (onlyAsk trivial)) fun _ => ending
  · exact ending

theorem failCareful {reason : TerminalReason} {container : Option Termination} {message : String} :
    Careful task (fail now task reason container message) :=
  .bind (writeCareful active (Phase.activeMayEnd active).2) fun _ => .pure _

variable (idle : task.phase ≠ .running)
include idle

theorem blockCareful {cause : Block} : Careful task (block r now task cause) :=
  .bind (writeCareful active (Phase.waitingMayMove active idle).1) fun _ => .pure _

theorem enqueueCareful {w : Wait} {delay : Duration} : Careful task (enqueue now task w delay) :=
  .bind (writeCareful active (Phase.waitingMayMove active idle).2.1) fun _ => .pure _

theorem launchCareful (resolved : Resolved) : Careful task (launch r now task resolved) := by
  refine .bind (.lift (onlyAsk trivial)) fun reply => ?_
  rcases reply with (cause | cause) | _
  · exact blockCareful active idle
  · exact .throw nofun
  · exact .bind (writeCareful active (Phase.waitingMayMove active idle).2.2) fun _ => .pure _

theorem startCareful (resolved : Resolved) : Careful task (start r now task resolved) := by
  rw [startLaunches]
  split
  · exact .bind (.ofWorkload (onlyAsk trivial)) fun _ => launchCareful active idle resolved
  · exact launchCareful active idle resolved

theorem considerCareful : Careful task (consider r now task) := by
  unfold consider
  split
  · exact .pure _
  · refine .bind (.looks resolveLooks) fun found => ?_
    cases found with
    | error cause => exact blockCareful active idle
    | ok resolved =>
      refine .bind (.looks listLooks) fun peers => .bind (.looks capacityLooks) fun slots => ?_
      split
      · exact enqueueCareful active idle
      · refine .bind (.looks quotaLooks) fun check => ?_
        split
        · exact enqueueCareful active idle
        · exact startCareful active idle resolved

end

section
variable (running : task.phase = .running)
include running

theorem runningActive : task.phase.isTerminal = false := by
  rw [running]
  rfl

theorem handleFailureCareful {run : Key} {container : Option Termination} :
    Careful task (handleFailure r now task run container) := by
  have active := runningActive running
  have requeues : task.phase.canBecome .queued = true := by
    rw [running]
    rfl
  unfold handleFailure
  dsimp only
  split
  · refine .bind (writeCareful active requeues) fun _ => ?_
    exact .bind (.lift (onlyAsk trivial)) fun _ => .pure _
  · exact failCareful active

theorem observeCareful : Careful task (observe r now task) := by
  have active := runningActive running
  unfold observe
  split
  · exact failCareful active
  · refine .bind (.ofWorkload (onlyAsk trivial)) fun found => ?_
    cases found with
    | none => exact failCareful active
    | some observed =>
      dsimp only
      cases observed.state with
      | pending | running => exact .pure _
      | succeeded =>
        refine .bind (.looks declaredLooks) fun declared => ?_
        exact .bind (writeCareful active (Phase.activeMayEnd active).1) fun _ => .pure _
      | failed => exact handleFailureCareful running

end

theorem visitCareful : Careful task
    (if task.phase.isTerminal then Pure.pure .done
    else if task.stopRequested then stop now task
    else if task.phase == .running then observe r now task
    else consider r now task) := by
  split
  · exact .pure _
  · rename_i active
    have active : task.phase.isTerminal = false := by simpa using active
    split
    · exact stopCareful active
    · split
      · rename_i running
        exact observeCareful (by simpa using running)
      · rename_i idle
        exact considerCareful active (by simpa using idle)

end

/-- Whatever a reconcile is answered, it writes only statuses that a task it was told
of may take, and it does not end with a transition refused. -/
theorem reconcileWrites (r : Reconciler) (now : Instant) (key : Key) :
    Obeys (fun told => MayWrite (told.filterMap Told.task?)) (fun _ result => Sound result) []
      (r.reconcile now key) := by
  refine ⟨trivial, fun reply => ?_⟩
  cases reply with
  | error e => exact nofun
  | ok found =>
    cases found with
    | none => exact nofun
    | some task =>
      have there : task ∈ [(⟨.get .task key, .ok (some task)⟩ : Told)].filterMap Told.task? := by
        simp [Told.task?]
      exact Careful.known visitCareful there

end Reconcile
end Turnstile
