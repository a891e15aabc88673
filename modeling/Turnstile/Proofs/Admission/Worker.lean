import Turnstile.Proofs.Admission.Count
import Turnstile.Proofs.Reconcile.Calls
/-! A worker in the middle of a reconcile, between its calls. Its admission is in
flight from a listing with a free slot to the status write that lands it. -/
namespace Turnstile
open Reconcile

inductive Worker where
  | idle
  | busy (told : List Told) (rest : Procedure (Except ReconcileError ReconcileOutcome))

namespace Worker

instance (told : List Told) : Decidable (Unwritten told) :=
  inferInstanceAs (Decidable (∀ t ∈ told, t.isWrite = false))

def inFlight (agent : Key) (limit : UInt32) : Worker → Bool
  | idle => false
  | busy told _ =>
    decide (Unwritten told) && (agentRead told).any (fun a => a.key == agent) &&
      (capacityRead told).any fun tasks => Admission.countRunning agent tasks < limit.toNat

def Obeys : Worker → Prop
  | idle => True
  | busy told rest => Procedure.Obeys May (fun _ _ => True) told rest

def Under (agent : Key) (limit : UInt32) : Worker → Prop
  | idle => True
  | busy told _ =>
    ∀ a, agentRead told = some a → a.key = agent → a.spec.maxConcurrentTasks = some limit

end Worker

namespace Reconcile
variable {told : List Told} {c : Call}

theorem mayWrite (may : May told c) :
    c.LeavesStatus ∨ ∃ o, c = .updateStatus .task o ∧ (o.phase = .running →
      ∃ agent, o.status.agent = some agent.key ∧ Admitted told agent) := by
  cases c with
  | updateStatus k o =>
    cases k with
    | task => exact .inr ⟨o, rfl, may⟩
    | agent | template | trigger | secret => exact may.elim
  | create | update | delete => exact may.elim
  | get | list | createWorkload | workloadStatus | deleteWorkload => exact .inl trivial

theorem mayAgents {b : Backend} {now : Instant} (may : May told c) :
    (b.perform now c).2.store.agents = b.store.agents := by
  cases c with
  | updateStatus k o =>
    cases k with
    | task => rfl
    | agent | template | trigger | secret => exact may.elim
  | create | update | delete => exact may.elim
  | get | list | createWorkload | workloadStatus | deleteWorkload => rfl

theorem agentFirst {x : Told} {agent : Agent} (may : May told x.call) (read : x.agent? = some agent) :
    told.filterMap Told.tasks? = [] ∧ x.tasks? = none := by
  unfold Told.agent? at read
  split at read
  · exact ⟨may, rfl⟩
  · cases read

theorem listsAll {x : Told} {tasks : List Task} (may : May told x.call) (read : x.tasks? = some tasks) :
    x.call = .list .task .all ∧ x.agent? = none := by
  unfold Told.tasks? at read
  split at read
  · exact ⟨congrArg (Call.list .task) may, rfl⟩
  · cases read

theorem newCapacityRead {x : Told} {agent : Agent} {tasks : List Task} (may : May told x.call)
    (read : agentRead (told ++ [x]) = some agent) (counted : capacityRead (told ++ [x]) = some tasks) :
    agentRead told = some agent ∧ (capacityRead told = some tasks ∨ x.tasks? = some tasks) := by
  unfold agentRead at read
  unfold capacityRead at counted
  rw [List.filterMap_append] at read counted
  cases found : x.agent? with
  | some other =>
    obtain ⟨nothing, none⟩ := agentFirst may found
    simp [nothing, none] at counted
  | none =>
    have before : agentRead told = some agent := by simpa [found, agentRead] using read
    refine ⟨before, ?_⟩
    cases listed : x.tasks? with
    | none =>
      left
      simpa [listed, capacityRead] using counted
    | some last =>
      simp only [List.filterMap_cons, List.filterMap_nil, listed] at counted
      rcases Nat.lt_or_ge 1 (told.filterMap Told.tasks?).length with within | beyond
      · rw [List.getElem?_append_left within] at counted
        exact .inl counted
      · rw [List.getElem?_append_right beyond] at counted
        have only := List.mem_of_getElem? counted
        rw [List.mem_singleton.mp only]
        exact .inr rfl

end Reconcile

namespace Backend
variable {b : Backend} {now : Instant} {c : Call}

theorem agentAnswered {a : Agent} (read : (Told.mk c (b.perform now c).1).agent? = some a) :
    b.store.get? .agent a.key = some a := by
  unfold Told.agent? at read
  split at read
  · rename_i same
    cases read
    exact getAnswered same
  · cases read

theorem tasksAnswered {tasks : List Task}
    (read : (Told.mk (.list .task .all) (b.perform now (.list .task .all)).1).tasks? = some tasks) :
    tasks = b.store.list .task .all :=
  (Option.some.inj read).symm

end Backend

namespace Worker
variable {agent : Key} {limit : UInt32} {told : List Told}
  {rest next : Procedure (Except ReconcileError ReconcileOutcome)}

theorem inFlightIff : (busy told rest).inFlight agent limit = true ↔
    Unwritten told ∧ (∃ a, agentRead told = some a ∧ a.key = agent) ∧
      ∃ tasks, capacityRead told = some tasks ∧
        Admission.countRunning agent tasks < limit.toNat := by
  simp [inFlight, Option.any_eq_true, and_assoc]

theorem writtenLands {x : Told} (write : x.isWrite = true) :
    (busy (told ++ [x]) rest).inFlight agent limit = false := by
  rw [Bool.eq_false_iff]
  intro flying
  have unwritten := (inFlightIff.mp flying).1 x (by simp)
  rw [write] at unwritten
  cases unwritten

theorem comesInFlight {b : Backend} {now : Instant} {call : Call} (may : May told call)
    (flies : (busy (told ++ [⟨call, (b.perform now call).1⟩]) next).inFlight agent limit = true) :
    (busy told rest).inFlight agent limit = true ∨ b.store.running agent < limit.toNat := by
  obtain ⟨unwritten, ⟨a, read, own⟩, tasks, counted, free⟩ := inFlightIff.mp flies
  have before : Unwritten told := fun t inside => unwritten t (List.mem_append_left _ inside)
  obtain ⟨known, listed | listed⟩ := newCapacityRead may read counted
  · exact .inl (inFlightIff.mpr ⟨before, ⟨a, known, own⟩, tasks, listed, free⟩)
  · obtain ⟨all, -⟩ := listsAll may listed
    dsimp only at all
    subst all
    rw [Backend.tasksAnswered listed] at free
    exact .inr free

theorem underAsked {b : Backend} {now : Instant} {call : Call}
    (under : (busy told rest).Under agent limit)
    (limited : ∀ a, b.store.get? .agent agent = some a → a.spec.maxConcurrentTasks = some limit) :
    (busy (told ++ [⟨call, (b.perform now call).1⟩]) next).Under agent limit := by
  intro a read own
  unfold agentRead at read
  rw [List.filterMap_append] at read
  cases before : told.filterMap Told.agent? with
  | cons first others =>
    rw [before] at read
    exact under a (by unfold agentRead; rw [before]; exact read) own
  | nil =>
    rw [before] at read
    have answered : (Told.mk call (b.perform now call).1).agent? = some a := by
      cases found : (Told.mk call (b.perform now call).1).agent? <;> simp_all
    have stored := Backend.agentAnswered answered
    rw [own] at stored
    exact limited a stored

end Worker

end Turnstile
