import Turnstile.Admission
import Turnstile.Proofs.Store
/-! How a write moves the number of stored objects of some sort, and what that
says of the running tasks that count against an agent. -/
namespace Turnstile

def Task.runsFor (agent : Key) (t : Task) : Bool := Admission.isRunning t && t.agentKey? == some agent

theorem Admission.countRunningAll (agent : Key) (tasks : List Task) :
    countRunning agent tasks = tasks.countP (Task.runsFor agent) := by
  unfold countRunning countedAgainst
  rw [List.filter_filter, List.countP_eq_length_filter]
  rfl

def Store.running (s : Store) (agent : Key) : Nat :=
  Admission.countRunning agent (s.list .task .all)

theorem Store.runningCount (s : Store) (agent : Key) :
    s.running agent = s.tasks.objects.values.countP (Task.runsFor agent) := by
  unfold running
  rw [Admission.countRunningAll, Store.listAll]
  rfl

def Collection.Recorded (c : Collection .task) : Prop :=
  ∀ key t, c.objects.get? key = some t → t.phase = .running → t.status.agent.isSome

namespace Task
variable {t old : Task} {agent own : Key}

theorem runsForIff :
    t.runsFor agent = true ↔ t.phase = .running ∧ t.agentKey? = some agent := by
  simp [runsFor, Admission.isRunning]

theorem agentRecorded (recorded : t.status.agent = some own) : t.agentKey? = some own := by
  simp [agentKey?, recorded]

theorem phaseSame (status : t.status = old.status) : t.phase = old.phase := by
  unfold phase
  rw [status]

theorem freshIdle (fresh : t.status = .fresh) : t.phase ≠ .running := by
  unfold phase
  rw [fresh]
  decide

theorem runsForSame (recorded : old.phase = .running → old.status.agent.isSome)
    (status : t.status = old.status) (runs : t.runsFor agent = true) : old.runsFor agent = true := by
  obtain ⟨running, counted⟩ := runsForIff.mp runs
  rw [phaseSame status] at running
  obtain ⟨own, known⟩ := Option.isSome_iff_exists.mp (recorded running)
  have mine : t.agentKey? = some own := agentRecorded (by rw [status]; exact known)
  refine runsForIff.mpr ⟨running, ?_⟩
  rw [agentRecorded known, ← mine]
  exact counted

end Task

namespace TaskWrite
variable {c : Call} {before after : Collection .task} {agent : Key}

theorem atMostOneMore (agent : Key) (write : TaskWrite c before after) :
    after.objects.values.countP (Task.runsFor agent) ≤
      before.objects.values.countP (Task.runsFor agent) + 1 := by
  cases write with
  | none => omega
  | created asked vacant status =>
    rw [Collection.countPutNew (k := .task) (Task.runsFor agent) vacant]
    split <;> omega
  | respecified asked stored status =>
    have counted := Collection.countPut (k := .task) (Task.runsFor agent) stored
    split at counted <;> split at counted <;> omega
  | restatused asked stored status =>
    have counted := Collection.countPut (k := .task) (Task.runsFor agent) stored
    split at counted <;> split at counted <;> omega
  | deleted asked stored =>
    have counted := Collection.countDrop (k := .task) (Task.runsFor agent) stored
    omega

def Quiet (agent : Key) (c : Call) : Prop :=
  c.LeavesStatus ∨ ∃ o, c = .updateStatus .task o ∧
    (o.phase = .running → ∃ own, o.status.agent = some own ∧ own ≠ agent)

theorem noMore (write : TaskWrite c before after) (recorded : before.Recorded)
    (quiet : Quiet agent c) :
    after.objects.values.countP (Task.runsFor agent) ≤
      before.objects.values.countP (Task.runsFor agent) := by
  cases write with
  | none => omega
  | @created o t asked vacant status =>
    have idle : t.runsFor agent ≠ true := by
      intro runs
      have running := (Task.runsForIff.mp runs).1
      rcases quiet with fresh | ⟨other, asked', -⟩
      · subst asked
        exact Task.freshIdle (status.trans fresh) running
      · rw [asked] at asked'
        cases asked'
    rw [Collection.countPutNew (k := .task) (Task.runsFor agent) vacant, if_neg idle]
    omega
  | @respecified o t current asked stored status =>
    have counted := Collection.countPut (k := .task) (Task.runsFor agent) stored
    by_cases runs : t.runsFor agent = true
    · have still : current.runsFor agent = true := Task.runsForSame (recorded _ _ stored) status runs
      rw [if_pos runs, if_pos still] at counted
      omega
    · rw [if_neg runs] at counted
      omega
  | @restatused o t current asked stored status key spec =>
    have counted := Collection.countPut (k := .task) (Task.runsFor agent) stored
    have idle : t.runsFor agent ≠ true := by
      intro runs
      obtain ⟨running, mine⟩ := Task.runsForIff.mp runs
      rcases quiet with leaves | ⟨other, asked', elsewhere⟩
      · subst asked
        exact leaves
      · rw [asked] at asked'
        cases asked'
        rw [Task.phaseSame status] at running
        obtain ⟨own, known, different⟩ := elsewhere running
        rw [Task.agentRecorded (by rw [status]; exact known)] at mine
        exact different (Option.some.inj mine)
    rw [if_neg idle] at counted
    omega
  | deleted asked stored =>
    have counted := Collection.countDrop (k := .task) (Task.runsFor agent) stored
    omega

theorem recorded (write : TaskWrite c before after) (recorded : before.Recorded)
    (records : c.LeavesStatus ∨ ∃ o, c = .updateStatus .task o ∧
      (o.phase = .running → o.status.agent.isSome)) : after.Recorded := by
  intro key t stored running
  rcases write.found stored with ⟨o, rfl, -, status⟩ | ⟨old, there, status⟩ | ⟨o, old, rfl, -, -, status⟩
  · rcases records with fresh | ⟨other, impossible, -⟩
    · exact absurd running (Task.freshIdle (status.trans fresh))
    · cases impossible
  · rw [Task.phaseSame status] at running
    rw [status]
    exact recorded key old there running
  · rcases records with leaves | ⟨other, same, agent⟩
    · exact leaves.elim
    · cases same
      rw [Task.phaseSame status] at running
      rw [status]
      exact agent running

end TaskWrite
end Turnstile
