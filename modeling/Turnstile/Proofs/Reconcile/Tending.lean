import Turnstile.Proofs.Reconcile.Heeds
import Turnstile.Proofs.Reconcile.Writes
import Turnstile.Proofs.Workload.Ownership
/-! How a reconcile tends the workloads of its task, whatever it is answered. It notes
that the task runs only on the run that it has just made, and that a running task runs
no more only after it saw its workload ended or removed it. -/
namespace Turnstile
open Procedure

namespace Told

def made? : Told → Option Key
  | ⟨.createWorkload spec, .ok ()⟩ => some spec.key
  | _ => none

def landed? : Told → Option Key
  | ⟨.updateStatus .task _, .ok task⟩ =>
    if task.phase = .running then Reconcile.recorded? task else none
  | _ => none

def gone? : Told → Option Key
  | ⟨.workloadStatus run, .ok none⟩ => some run
  | ⟨.workloadStatus run, .ok (some observed)⟩ => if observed.state.isLive then none else some run
  | ⟨.deleteWorkload run, .ok ()⟩ => some run
  | _ => none

end Told

def TaskStatus.Located (s : TaskStatus) (key : Key) : Prop :=
  s.phase.getD .pending = .running →
    s.workloadName = some (WorkloadSpec.nameFor key s.attempts) ∧ s.workloadNamespace = some key.ns

namespace Reconcile

theorem recordedLocated {task : Task} (located : task.status.Located task.key)
    (running : task.phase = .running) :
    recorded? task = some (task.key.run task.status.attempts) := by
  obtain ⟨name, ns⟩ := located running
  unfold recorded?
  rw [name, ns]
  rfl

def unrecorded (told : List Told) : List Key :=
  (told.filterMap Told.made?).filter fun run => run ∉ told.filterMap Told.landed?

/-- A status that a start writes: the task runs on all that the start has made. -/
structure Lands (told : List Told) (task : Task) (next : TaskStatus) : Prop where
  idle : task.phase ≠ .running
  running : next.phase.getD .pending = .running
  located : next.Located task.key
  made : ∀ run ∈ told.filterMap Told.made?, run = task.key.run next.attempts

/-- Any other status: nothing was made, and what the task ran on is over. -/
structure Rests (told : List Told) (task : Task) (next : TaskStatus) : Prop where
  idle : next.phase.getD .pending ≠ .running
  nothing : told.filterMap Told.made? = []
  gone : task.phase = .running → ∀ run, recorded? task = some run → run ∈ told.filterMap Told.gone?

def Tends (told : List Told) : Call → Prop
  | .get .task _ => told.filterMap Told.gone? = []
  | .createWorkload _ => told.filterMap Told.landed? = []
  | .updateStatus .task o => ∃ task ∈ told.filterMap Told.task?, ∃ next,
      o = { task with status := next } ∧ (Lands told task next ∨ Rests told task next)
  | .get .. | .list .. | .workloadStatus _ | .deleteWorkload _ => True
  | _ => False

structure Aware (told : List Told) (task : Task) (gone : List Key) : Prop where
  known : task ∈ told.filterMap Told.task?
  nothing : told.filterMap Told.made? = []
  unwritten : told.filterMap Told.landed? = []
  gone : ∀ run ∈ gone, run ∈ told.filterMap Told.gone?

section
variable {told : List Told} {task : Task} {gone : List Key} {x : Told}

theorem knownMore (known : task ∈ told.filterMap Told.task?) :
    task ∈ (told ++ [x]).filterMap Told.task? := by
  rw [List.filterMap_append]
  exact List.mem_append_left _ known

theorem Aware.more (h : Aware told task gone) (nothing : x.made? = none) (unwritten : x.landed? = none) :
    Aware (told ++ [x]) task (gone ++ x.gone?.toList) where
  known := knownMore h.known
  nothing := by simp [h.nothing, nothing]
  unwritten := by simp [h.unwritten, unwritten]
  gone run inside := by
    rw [List.filterMap_append, List.mem_append]
    rcases List.mem_append.mp inside with before | last
    · exact .inl (h.gone run before)
    · have found : x.gone? = some run := by simpa using last
      exact .inr (by simp [found])

theorem Aware.looked {c : Call} {reply : c.Reply} (h : Aware told task gone) (looks : c.Looks) :
    Aware (told ++ [⟨c, reply⟩]) task gone := by
  cases c with
  | get | list =>
    have more := h.more (x := ⟨_, reply⟩) rfl rfl
    rw [show (Told.mk _ reply).gone? = none from rfl] at more
    simpa using more
  | create | update | updateStatus | delete | createWorkload | workloadStatus | deleteWorkload =>
    exact looks.elim

theorem looksTend {c : Call} (looks : c.Looks) : Tends told c := by
  cases c with
  | get k key =>
    cases k with
    | task => exact absurd rfl looks
    | agent | template | trigger | secret => trivial
  | list => trivial
  | create | update | updateStatus | delete | createWorkload | workloadStatus | deleteWorkload =>
    exact looks.elim

theorem looking {α : Type} {p : Step α} (only : Confined Call.Looks p) (h : Aware told task gone) :
    Heeds Tends told (fun told _ => Aware told task gone) p := by
  unfold Confined at only
  unfold Heeds
  generalize p.run = calls at only
  induction calls generalizing told with
  | done r => exact fun _ _ => h
  | call c next ih =>
    exact ⟨looksTend only.1, fun reply => ih reply (h.looked only.1) (obeysAnyTold (only.2 reply))⟩

variable {now : Instant} {r : Reconciler} {change : TaskStatus → TaskStatus}

theorem writeTends (known : task ∈ told.filterMap Told.task?)
    (may : Lands told task (task.changed change) ∨ Rests told task (task.changed change)) :
    Heeds Tends told (fun _ _ => True) (writeStatus task change) := by
  unfold writeStatus
  dsimp only
  split
  · exact .throw _
  · split
    · exact .pure trivial
    · have allowed : Tends told (.updateStatus .task { task with status := task.changed change }) :=
        ⟨task, known, _, rfl, may⟩
      exact .andThen (.ofStore ⟨allowed, fun _ _ _ => trivial⟩) fun _ _ => .pure trivial

theorem restTends (h : Aware told task gone) (idle : (change task.status).phase.getD .pending ≠ .running)
    (seen : task.phase = .running → ∀ run, recorded? task = some run → run ∈ gone) :
    Heeds Tends told (fun _ _ => True) (writeStatus task change) :=
  writeTends h.known
    (.inr ⟨idle, h.nothing, fun running run recorded => h.gone run (seen running run recorded)⟩)

section
variable (h : Aware told task gone) (idle : task.phase ≠ .running)
include h idle

theorem blockTends {cause : Block} : Heeds Tends told (fun _ _ => True) (block r now task cause) :=
  .andThen (restTends h idle fun running => absurd running idle) fun _ _ => .pure trivial

theorem enqueueTends {w : Wait} {delay : Duration} :
    Heeds Tends told (fun _ _ => True) (enqueue now task w delay) :=
  .andThen (restTends h nofun fun running => absurd running idle) fun _ _ => .pure trivial

theorem launchTends (resolved : Resolved) :
    Heeds Tends told (fun _ _ => True) (launch r now task resolved) := by
  have made : Heeds Tends told (fun told reply => match reply with
      | .error _ => Aware told task gone
      | .ok () => task ∈ told.filterMap Told.task? ∧
        told.filterMap Told.made? = [task.key.run (task.status.attempts + 1)])
      (ExceptT.lift (ask (.createWorkload (nextRun task resolved)))) := by
    refine .lift ⟨h.unwritten, fun reply => ?_⟩
    cases reply with
    | error cause =>
      have more := h.more (x := ⟨.createWorkload (nextRun task resolved), .error cause⟩) rfl rfl
      rw [show (Told.mk (.createWorkload (nextRun task resolved)) (.error cause)).gone? = none from rfl]
        at more
      have aware : Aware (told ++ [⟨.createWorkload (nextRun task resolved), .error cause⟩]) task gone := by
        simpa using more
      exact aware
    | ok =>
      refine ⟨knownMore h.known, ?_⟩
      rw [List.filterMap_append, h.nothing]
      rfl
  refine made.bind fun told reply after => ?_
  rcases reply with (cause | cause) | _
  · exact blockTends after idle
  · exact .throw _
  · obtain ⟨known, made⟩ := after
    refine .andThen (writeTends known (.inl ⟨idle, rfl, fun _ => ⟨rfl, rfl⟩, ?_⟩)) fun _ _ => .pure trivial
    intro run inside
    rw [made] at inside
    exact List.mem_singleton.mp inside

theorem startTends (resolved : Resolved) :
    Heeds Tends told (fun _ _ => True) (start r now task resolved) := by
  rw [startLaunches]
  split
  · have cleared : Heeds Tends told (fun told _ => ∃ gone, Aware told task gone)
        (ofWorkload (ask (.deleteWorkload (workloadKey task task.status.attempts)))) :=
      .ofWorkload ⟨trivial, fun reply _ _ => ⟨_, h.more rfl rfl⟩⟩
    exact cleared.bind fun _ _ ⟨_, aware⟩ => launchTends aware idle resolved
  · exact launchTends h idle resolved

theorem considerTends : Heeds Tends told (fun _ _ => True) (consider r now task) := by
  unfold consider
  split
  · exact .pure trivial
  · refine (looking resolveLooks h).bind fun told found aware => ?_
    cases found with
    | error cause => exact blockTends aware idle
    | ok resolved =>
      refine (looking listLooks aware).bind fun told peers aware => ?_
      refine (looking capacityLooks aware).bind fun told slots aware => ?_
      split
      · exact enqueueTends aware idle
      · refine (looking quotaLooks aware).bind fun told check aware => ?_
        split
        · exact enqueueTends aware idle
        · exact startTends aware idle resolved

end

theorem failTends {reason : TerminalReason} {container : Option Termination} {message : String}
    (h : Aware told task gone)
    (seen : task.phase = .running → ∀ run, recorded? task = some run → run ∈ gone) :
    Heeds Tends told (fun _ _ => True) (fail now task reason container message) :=
  .andThen (restTends h nofun seen) fun _ _ => .pure trivial

theorem handleFailureTends {run : Key} {container : Option Termination} (h : Aware told task gone)
    (seen : task.phase = .running → ∀ run, recorded? task = some run → run ∈ gone) :
    Heeds Tends told (fun _ _ => True) (handleFailure r now task run container) := by
  unfold handleFailure
  dsimp only
  split
  · refine .andThen (restTends h nofun seen) fun told _ => ?_
    have removed : Heeds Tends told (fun _ _ => True) (ExceptT.lift (ask (.deleteWorkload run))) :=
      .lift ⟨trivial, fun _ => trivial⟩
    exact removed.andThen fun _ _ => .pure trivial
  · exact failTends h seen

theorem observeTends (h : Aware told task []) : Heeds Tends told (fun _ _ => True) (observe r now task) := by
  have completes : Phase.completed ≠ .running := by decide
  unfold observe
  split
  · rename_i unrecorded
    refine failTends h fun _ run recorded => ?_
    rw [unrecorded] at recorded
    cases recorded
  · rename_i run recorded
    have only : task.phase = .running → ∀ other, recorded? task = some other → other ∈ [run] := by
      intro _ other same
      rw [recorded] at same
      cases same
      exact List.mem_singleton_self _
    have looked : Heeds Tends told (fun told found =>
        Aware told task (Told.mk (.workloadStatus run) (.ok found)).gone?.toList)
        (ofWorkload (ask (.workloadStatus run))) := by
      refine .ofWorkload ⟨trivial, fun reply found same => ?_⟩
      subst same
      exact h.more (x := ⟨.workloadStatus run, .ok found⟩) rfl rfl
    refine looked.bind fun told found aware => ?_
    cases found with
    | none => exact failTends aware only
    | some observed =>
      dsimp only [Told.gone?] at aware ⊢
      cases state : observed.state with
      | pending | running => exact .pure trivial
      | succeeded =>
        rw [state] at aware
        refine (looking declaredLooks aware).bind fun told declared aware => ?_
        exact .andThen (restTends aware completes only) fun _ _ => .pure trivial
      | failed =>
        rw [state] at aware
        exact handleFailureTends aware only

theorem stopTends (h : Aware told task []) : Heeds Tends told (fun _ _ => True) (stop now task) := by
  have ending : ∀ {told gone}, Aware told task gone →
      (task.phase = .running → ∀ run, recorded? task = some run → run ∈ gone) →
      Heeds Tends told (fun _ _ => True) (do
        writeStatus task (stoppedStatus now)
        (pure .done : Step ReconcileOutcome)) :=
    fun aware seen => .andThen (restTends aware nofun seen) fun _ _ => .pure trivial
  unfold stop
  split
  · rename_i run recorded
    have removed : Heeds Tends told (fun told _ => Aware told task [run])
        (ofWorkload (ask (.deleteWorkload run))) := by
      refine .ofWorkload ⟨trivial, fun reply found same => ?_⟩
      subst same
      exact h.more (x := ⟨.deleteWorkload run, .ok found⟩) rfl rfl
    refine removed.bind fun told _ aware => ending aware fun _ other same => ?_
    rw [recorded] at same
    cases same
    exact List.mem_singleton_self _
  · rename_i unrecorded
    refine ending h fun _ run recorded => ?_
    rw [unrecorded] at recorded
    cases recorded

end

theorem reconcileTends (r : Reconciler) (now : Instant) (key : Key) :
    Obeys Tends (fun _ _ => True) [] (r.reconcile now key) := by
  have first : Heeds Tends [] (fun told found => ∀ task, found = some task → Aware told task [])
      (get .task key) := by
    refine .ofStore ⟨rfl, fun reply found same task there => ?_⟩
    subst same there
    exact ⟨by simp [Told.task?], rfl, rfl, nofun⟩
  have tends : Heeds Tends [] (fun _ _ => True) (step r now key) := by
    refine first.bind fun told found aware => ?_
    cases found with
    | none => exact .pure trivial
    | some task =>
      have aware := aware task rfl
      dsimp only
      split
      · exact .pure trivial
      · split
        · exact stopTends aware
        · split
          · exact observeTends aware
          · rename_i idle
            exact considerTends aware (by simpa using idle)
  exact Obeys.weaken tends fun _ _ _ => trivial

end Reconcile
end Turnstile
