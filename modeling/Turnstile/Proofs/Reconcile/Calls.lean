import Turnstile.Proofs.Reconcile.Heeds
import Turnstile.Proofs.Reconcile.Visit
/-! What a reconcile asks for, whatever it is answered. It reads its agent before
it lists tasks, and lists them once for the line and then for the free slots; it
starts a task only for the agent that it read, after a listing with a free slot. -/
namespace Turnstile

namespace Told

def agent? : Told → Option Agent
  | ⟨.get .agent _, .ok (some agent)⟩ => some agent
  | _ => none

def tasks? : Told → Option (List Task)
  | ⟨.list .task _, .ok tasks⟩ => some tasks
  | _ => none

def isWrite : Told → Bool
  | ⟨.updateStatus .task _, _⟩ => true
  | _ => false

end Told

namespace Reconcile
open Procedure

def agentRead (told : List Told) : Option Agent := (told.filterMap Told.agent?).head?

/-- The tasks that an admission counted: the first listing was for the line. -/
def capacityRead (told : List Told) : Option (List Task) := (told.filterMap Told.tasks?)[1]?

def Unwritten (told : List Told) : Prop := ∀ t ∈ told, t.isWrite = false

/-- An admission for an agent whose listing had a free slot, before its write. -/
structure Admitted (told : List Told) (agent : Agent) : Prop where
  unwritten : Unwritten told
  read : agentRead told = some agent
  room : ∀ max, agent.spec.maxConcurrentTasks = some max →
    ∃ tasks, capacityRead told = some tasks ∧ Admission.countRunning agent.key tasks < max.toNat

def May (told : List Told) : Call → Prop
  | .get .agent _ => told.filterMap Told.tasks? = []
  | .list .task selector => selector = .all
  | .updateStatus .task task =>
    task.phase = .running → ∃ agent, task.status.agent = some agent.key ∧ Admitted told agent
  | .get .. | .createWorkload _ | .workloadStatus _ | .deleteWorkload _ => True
  | _ => False

structure Heard (told : List Told) (agents : List Agent) (listings : List (List Task)) : Prop where
  unwritten : Unwritten told
  agents : told.filterMap Told.agent? = agents
  listings : told.filterMap Told.tasks? = listings

section
variable {told : List Told} {t : Told} {agents : List Agent} {listings : List (List Task)}
  {agent : Agent}

theorem Unwritten.more (h : Unwritten told) (unwritten : t.isWrite = false) :
    Unwritten (told ++ [t]) := by
  intro other inside
  rcases List.mem_append.mp inside with before | last
  · exact h other before
  · rw [List.mem_singleton.mp last]
    exact unwritten

theorem Heard.more (h : Heard told agents listings) (unwritten : t.isWrite = false) :
    Heard (told ++ [t]) (agents ++ t.agent?.toList) (listings ++ t.tasks?.toList) := by
  refine ⟨h.unwritten.more unwritten, ?_, ?_⟩
  · rw [List.filterMap_append, h.agents]
    cases found : t.agent? <;> simp [found]
  · rw [List.filterMap_append, h.listings]
    cases found : t.tasks? <;> simp [found]

theorem Heard.withAgent {key : Key} {agent : Agent} (h : Heard told [] []) :
    Heard (told ++ [⟨.get .agent key, .ok (some agent)⟩]) [agent] [] := by
  have answered : Told.agent? ⟨.get .agent key, .ok (some agent)⟩ = some agent := rfl
  have silent : Told.tasks? ⟨.get .agent key, .ok (some agent)⟩ = none := rfl
  have more := h.more (t := ⟨.get .agent key, .ok (some agent)⟩) rfl
  rw [answered, silent] at more
  exact more

theorem agentReadMore (found : agentRead told = some agent) : agentRead (told ++ [t]) = some agent := by
  obtain ⟨rest, first⟩ := List.head?_eq_some_iff.mp found
  unfold agentRead
  rw [List.filterMap_append, first]
  rfl

theorem capacityReadMore {tasks : List Task} (found : capacityRead told = some tasks) :
    capacityRead (told ++ [t]) = some tasks := by
  obtain ⟨within, -⟩ := List.getElem?_eq_some_iff.mp found
  unfold capacityRead
  rw [List.filterMap_append, List.getElem?_append_left within]
  exact found

theorem Admitted.more (h : Admitted told agent) (unwritten : t.isWrite = false) :
    Admitted (told ++ [t]) agent where
  unwritten := h.unwritten.more unwritten
  read := agentReadMore h.read
  room max limit := by
    obtain ⟨tasks, read, below⟩ := h.room max limit
    exact ⟨tasks, capacityReadMore read, below⟩

end

def Goes {α : Type} (told : List Told) (result : List Told → α → Prop) (p : Step α) : Prop :=
  Obeys May (fun told (r : Except ReconcileError α) => ∀ a, r = .ok a → result told a) told p.run

namespace Goes
variable {α β : Type} {told : List Told} {result : List Told → α → Prop}

theorem pure {a : α} (holds : result told a) : Goes told result (Pure.pure a) := Heeds.pure holds

theorem throw (e : ReconcileError) : Goes told result (MonadExcept.throw e : Step α) := Heeds.throw e

theorem bind {p : Step α} {f : α → Step β} {last : List Told → β → Prop} (first : Goes told result p)
    (rest : ∀ told a, result told a → Goes told last (f a)) : Goes told last (p >>= f) :=
  Heeds.bind first rest

theorem andThen {p : Step α} {f : α → Step β} {last : List Told → β → Prop}
    (first : Goes told (fun _ _ => True) p) (rest : ∀ told a, Goes told last (f a)) :
    Goes told last (p >>= f) :=
  Heeds.andThen first rest

theorem ofStore {p : Procedure (Except StoreError α)}
    (h : Obeys May (fun told r => ∀ a, r = .ok a → result told a) told p) :
    Goes told result (ofStore p) :=
  Heeds.ofStore h

theorem ofWorkload {p : Procedure (Except WorkloadError α)}
    (h : Obeys May (fun told r => ∀ a, r = .ok a → result told a) told p) :
    Goes told result (ofWorkload p) :=
  Heeds.ofWorkload h

theorem lift {p : Procedure α} (h : Obeys May result told p) : Goes told result (ExceptT.lift p) :=
  Heeds.lift h

end Goes

section
variable {told : List Told} {now : Instant} {task : Task}

theorem writeGoes {change : TaskStatus → TaskStatus} {result : List Told → Unit → Prop}
    (may : (change task.status).phase.getD .pending = .running →
      ∃ agent, (change task.status).agent = some agent.key ∧ Admitted told agent)
    (holds : ∀ told, result told ()) : Goes told result (writeStatus task change) := by
  unfold writeStatus
  dsimp only
  split
  · exact Goes.throw _
  · split
    · exact Goes.pure (holds _)
    · refine Goes.andThen (Goes.ofStore ⟨may, fun _ _ _ => trivial⟩) ?_
      intro told stored
      exact Goes.pure (holds _)

theorem idleWriteGoes {change : TaskStatus → TaskStatus} {result : List Told → Unit → Prop}
    (idle : (change task.status).phase.getD .pending ≠ .running) (holds : ∀ told, result told ()) :
    Goes told result (writeStatus task change) :=
  writeGoes (fun running => absurd running idle) holds

theorem getGoes {k : Kind} {key : Key} {result : List Told → Option k.Object → Prop}
    (may : May told (.get k key))
    (holds : ∀ reply found, reply = .ok found → result (told ++ [⟨.get k key, reply⟩]) found) :
    Goes told result (get k key) :=
  Goes.ofStore ⟨may, holds⟩

theorem effectiveSpecGoes (h : Heard told [] []) :
    Goes told (fun told _ => Heard told [] []) (effectiveSpec task) := by
  unfold effectiveSpec
  split
  · exact Goes.pure h
  · have read : ∀ key, Goes told (fun told _ => Heard told [] []) (get .template key) :=
      fun key => getGoes trivial fun _ _ _ => h.more rfl
    refine Goes.bind (read _) fun told found heard => ?_
    cases found with
    | some template => exact Goes.pure heard
    | none => exact Goes.pure heard

theorem resolveGoes (h : Heard told [] []) :
    Goes told (fun told r => ∀ resolved, r = .ok resolved → Heard told [resolved.agent] [])
      (resolve task) := by
  have unresolved : ∀ told cause, Goes told
      (fun told (r : Except Block Resolved) => ∀ resolved, r = .ok resolved →
        Heard told [resolved.agent] []) (pure (.error cause)) := by
    intro told cause
    refine Goes.pure ?_
    intro resolved impossible
    cases impossible
  refine Goes.bind (effectiveSpecGoes h) fun told r heard => ?_
  cases r with
  | error cause => exact unresolved told cause
  | ok spec =>
    dsimp only
    cases spec.agentRef with
    | none => exact unresolved told _
    | some ref =>
      have read : Goes told (fun told found => ∀ agent, found = some agent → Heard told [agent] [])
          (get .agent (ref.resolve task.metadata.ns)) := by
        refine getGoes heard.listings ?_
        intro reply found same agent there
        rw [there] at same
        rw [same]
        exact heard.withAgent
      refine Goes.bind read fun told found heard => ?_
      cases found with
      | none => exact unresolved told _
      | some agent =>
        dsimp only
        split
        · refine Goes.pure fun resolved same => ?_
          cases same
          exact heard agent rfl
        · exact unresolved told _

theorem listGoes {agents : List Agent} {listings : List (List Task)} {agent : Key}
    (h : Heard told agents listings) :
    Goes told (fun told peers => ∃ tasks, Heard told agents (listings ++ [tasks]) ∧
      peers = Admission.countedAgainst agent tasks) (listTasks agent) := by
  have listed : Goes told (fun told tasks => Heard told agents (listings ++ [tasks]))
      (ofStore (ask (.list .task .all))) := by
    refine Goes.ofStore ⟨rfl, fun reply tasks same => ?_⟩
    subst same
    have more := h.more (t := ⟨.list .task .all, .ok tasks⟩) rfl
    rw [show agents = agents ++ [] from (List.append_nil _).symm]
    exact more
  exact Goes.bind listed fun told tasks heard => Goes.pure ⟨tasks, heard, rfl⟩

theorem capacityGoes {agent : Agent} {line : List Task} (h : Heard told [agent] [line]) :
    Goes told (fun told slots => ∀ n, slots.exceeds n = true → Admitted told agent)
      (capacity agent) := by
  unfold capacity
  split
  · rename_i unlimited
    refine Goes.pure fun _ _ => ⟨h.unwritten, ?_, ?_⟩
    · unfold agentRead
      rw [h.agents]
      rfl
    · intro max limit
      rw [unlimited] at limit
      cases limit
  · rename_i max limit
    refine Goes.bind (listGoes h) fun told peers listed => ?_
    obtain ⟨tasks, heard, rfl⟩ := listed
    refine Goes.pure fun n room => ⟨heard.unwritten, ?_, ?_⟩
    · unfold agentRead
      rw [heard.agents]
      rfl
    · intro other same
      rw [limit] at same
      cases same
      refine ⟨tasks, ?_, ?_⟩
      · unfold capacityRead
        rw [heard.listings]
        rfl
      · simp only [Admission.remainingCapacity, limit, Headroom.ofUsage, Headroom.exceeds,
          Admission.countRunning, countedTwice, decide_eq_true_eq] at room
        unfold Admission.countRunning
        omega

theorem quotaGoes {agent : Agent} (h : Admitted told agent) :
    Goes told (fun told _ => Admitted told agent) (quota agent now) := by
  unfold quota
  split
  · exact Goes.pure h
  · have listed : Goes told (fun told _ => Admitted told agent) (listTasks agent.key) := by
      have asked : Goes told (fun told _ => Admitted told agent) (ofStore (ask (.list .task .all))) :=
        Goes.ofStore ⟨rfl, fun _ _ _ => h.more rfl⟩
      exact Goes.bind asked fun told tasks admitted => Goes.pure admitted
    exact Goes.bind listed fun told tasks admitted => Goes.pure admitted

variable {r : Reconciler}

theorem blockGoes {cause : Block} (idle : task.phase ≠ .running) :
    Goes told (fun _ _ => True) (block r now task cause) :=
  Goes.andThen (idleWriteGoes idle fun _ => trivial) fun _ _ => Goes.pure trivial

theorem enqueueGoes {w : Wait} {delay : Duration} :
    Goes told (fun _ _ => True) (enqueue now task w delay) :=
  Goes.andThen (idleWriteGoes nofun fun _ => trivial) fun _ _ => Goes.pure trivial

theorem launchGoes {resolved : Resolved} (h : Admitted told resolved.agent)
    (idle : task.phase ≠ .running) : Goes told (fun _ _ => True) (launch r now task resolved) := by
  unfold launch
  have made : Goes told (fun told _ => Admitted told resolved.agent)
      (ExceptT.lift (ask (.createWorkload (nextRun task resolved)))) :=
    Goes.lift ⟨trivial, fun _ => h.more rfl⟩
  refine Goes.bind made fun told reply admitted => ?_
  rcases reply with (cause | cause) | _
  · exact blockGoes idle
  · exact Goes.throw _
  · refine Goes.andThen (writeGoes ?_ fun _ => trivial) fun _ _ => Goes.pure trivial
    exact fun _ => ⟨resolved.agent, rfl, admitted⟩

theorem startGoes {resolved : Resolved} (h : Admitted told resolved.agent)
    (idle : task.phase ≠ .running) : Goes told (fun _ _ => True) (start r now task resolved) := by
  rw [startLaunches]
  split
  · have cleared : Goes told (fun told _ => Admitted told resolved.agent)
        (ofWorkload (ask (.deleteWorkload (workloadKey task task.status.attempts)))) :=
      Goes.ofWorkload ⟨trivial, fun _ _ _ => h.more rfl⟩
    exact Goes.bind cleared fun _ _ admitted => launchGoes admitted idle
  · exact launchGoes h idle

theorem considerGoes (h : Heard told [] []) (idle : task.phase ≠ .running) :
    Goes told (fun _ _ => True) (consider r now task) := by
  unfold consider
  split
  · exact Goes.pure trivial
  · refine Goes.bind (resolveGoes h) fun told found heard => ?_
    cases found with
    | error cause => exact blockGoes idle
    | ok resolved =>
      refine Goes.bind (listGoes (heard resolved rfl)) fun told peers line => ?_
      obtain ⟨tasks, heard, -⟩ := line
      refine Goes.bind (capacityGoes heard) fun told slots admits => ?_
      split
      · exact enqueueGoes
      · rename_i room
        have admitted : Admitted told resolved.agent := admits _ (by simpa using room)
        refine Goes.bind (quotaGoes admitted) fun told check admitted => ?_
        split
        · exact enqueueGoes
        · exact startGoes admitted idle

theorem failGoes {reason : TerminalReason} {container : Option Termination} {message : String} :
    Goes told (fun _ _ => True) (fail now task reason container message) :=
  Goes.andThen (idleWriteGoes nofun fun _ => trivial) fun _ _ => Goes.pure trivial

theorem declaredGoes : Goes told (fun _ _ => True) (declaredOutputs task) := by
  unfold declaredOutputs
  split
  · exact Goes.pure trivial
  · refine Goes.andThen (getGoes trivial fun _ _ _ => trivial) fun told found => ?_
    cases found with
    | some template => exact Goes.pure trivial
    | none => exact Goes.pure trivial

theorem handleFailureGoes {run : Key} {container : Option Termination} :
    Goes told (fun _ _ => True) (handleFailure r now task run container) := by
  unfold handleFailure
  dsimp only
  split
  · refine Goes.andThen (idleWriteGoes nofun fun _ => trivial) fun told _ => ?_
    have removed : Goes told (fun _ _ => True) (ExceptT.lift (ask (.deleteWorkload run))) :=
      Goes.lift ⟨trivial, fun _ => trivial⟩
    exact removed.andThen fun _ _ => Goes.pure trivial
  · exact failGoes

theorem observeGoes : Goes told (fun _ _ => True) (observe r now task) := by
  unfold observe
  split
  · exact failGoes
  · rename_i run _
    have looked : Goes told (fun _ _ => True) (ofWorkload (ask (.workloadStatus run))) :=
      Goes.ofWorkload ⟨trivial, fun _ _ _ => trivial⟩
    refine looked.andThen fun told found => ?_
    cases found with
    | none => exact failGoes
    | some observed =>
      dsimp only
      cases observed.state with
      | pending | running => exact Goes.pure trivial
      | succeeded =>
        refine declaredGoes.andThen fun told declared => ?_
        exact Goes.andThen (idleWriteGoes nofun fun _ => trivial) fun _ _ => Goes.pure trivial
      | failed => exact handleFailureGoes

theorem stopGoes : Goes told (fun _ _ => True) (stop now task) := by
  have ending : ∀ told, Goes told (fun _ _ => True) (do
      writeStatus task (stoppedStatus now)
      (pure .done : Step ReconcileOutcome)) := fun told =>
    Goes.andThen (idleWriteGoes nofun fun _ => trivial) fun _ _ => Goes.pure trivial
  unfold stop
  split
  · rename_i run _
    have removed : Goes told (fun _ _ => True) (ofWorkload (ask (.deleteWorkload run))) :=
      Goes.ofWorkload ⟨trivial, fun _ _ _ => trivial⟩
    exact removed.andThen fun told _ => ending told
  · exact ending told

end

theorem reconcileObeys (r : Reconciler) (now : Instant) (key : Key) :
    Obeys May (fun _ _ => True) [] (r.reconcile now key) := by
  have first : Goes [] (fun told _ => Heard told [] []) (get .task key) :=
    getGoes trivial fun _ _ _ => ⟨by simp [Unwritten, Told.isWrite], rfl, rfl⟩
  have goes : Goes [] (fun _ _ => True) (step r now key) := by
    refine Goes.bind first fun told found heard => ?_
    cases found with
    | none => exact Goes.pure trivial
    | some task =>
      dsimp only
      split
      · exact Goes.pure trivial
      · split
        · exact stopGoes
        · split
          · exact observeGoes
          · rename_i idle
            exact considerGoes heard (by simpa using idle)
  exact Obeys.weaken goes fun _ _ _ => trivial

end Reconcile
end Turnstile
