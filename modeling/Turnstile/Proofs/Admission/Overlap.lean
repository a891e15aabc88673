import Turnstile.Proofs.Admission.Crew
/-! Runs of a crew. A slot is taken twice only by admissions that were in flight
together, which bounds how many tasks run at once. -/
namespace Turnstile
open Reconcile

namespace Crew
variable {agent : Key} {limit : UInt32} {c d e : Crew}

namespace Run
variable {always : Crew → Prop}

theorem holds (run : Run always c d) : always d := by
  cases run with
  | start holds => exact holds
  | step _ _ holds => exact holds

theorem trans (first : Run always c d) (last : Run always d e) :
    Run always c e := by
  induction last with
  | start => exact first
  | step _ next holds ih => exact .step ih next holds

theorem size (run : Run always c d) : d.workers.length = c.workers.length := by
  induction run with
  | start => rfl
  | step past next _ ih => exact next.size.trans ih

theorem sized (run : Run always c d) :
    Run (fun e => always e ∧ e.workers.length = c.workers.length) c d := by
  induction run with
  | start holds => exact .start ⟨holds, rfl⟩
  | step past next holds ih => exact .step ih next ⟨holds, next.size.trans past.size⟩

theorem orderly (run : Run always c d) (h : Orderly c) : Orderly d := by
  induction run with
  | start => exact h
  | step past next _ ih => exact next.orderly ih

theorem informed (run : Run always c d) (limited : ∀ e, always e → Limited agent limit e)
    (h : Informed agent limit c) : Informed agent limit d := by
  induction run with
  | start => exact h
  | step past next _ ih => exact next.informed ih (limited _ past.holds)

theorem bounded {flights : Nat} (run : Run always c d)
    (limited : ∀ e, always e → Limited agent limit e)
    (few : ∀ e, always e → e.inFlight agent limit ≤ flights) (h : Orderly c)
    (informed : Informed agent limit c) (none : c.running agent = 0) :
    d.running agent + d.inFlight agent limit ≤ limit.toNat + flights - 1 := by
  induction run with
  | start holds =>
    have flying := few _ holds
    rcases Nat.eq_zero_or_pos (Crew.inFlight c agent limit) with landed | some
    · omega
    · -- what is in flight saw a free slot, so the limit is not zero
      obtain ⟨w, -, flies⟩ := List.countP_pos_iff.mp some
      cases w with
      | idle => cases flies
      | busy told rest =>
        obtain ⟨-, -, tasks, -, free⟩ := Worker.inFlightIff.mp flies
        omega
  | step past next holds ih =>
    have flying := few _ holds
    rcases next.counted (past.orderly h) (past.informed limited informed) with same | free
    · exact Nat.le_trans same ih
    · omega

end Run

structure Wrote (c d : Crew) (told : List Told) (o : Task) : Prop where
  turn : ∃ next, .busy told (.call (.updateStatus .task o) next) ∈ c.workers
  written : ∃ now, d.backend = (c.backend.perform now (.updateStatus .task o)).2

theorem Step.starts {key : Key} {t : Task} (step : Step c d) (h : Orderly c)
    (informed : Informed agent limit c)
    (after : d.backend.store.get? .task key = some t) (runs : t.runsFor agent = true)
    (new : ∀ old, c.backend.store.get? .task key = some old → old.runsFor agent = false) :
    ∃ told o, Wrote c d told o ∧ o.key = key ∧
      ∃ tasks, capacityRead told = some tasks ∧ Admission.countRunning agent tasks < limit.toNat := by
  have fresh : ∀ old, c.backend.store.get? .task key = some old → t.status ≠ old.status := by
    intro old before status
    have ran := Task.runsForSame (h.recorded key old before) status runs
    rw [new old before] at ran
    cases ran
  have changed : d.backend.store ≠ c.backend.store := by
    intro same
    rw [same] at after
    exact fresh t after rfl
  have restated : ∀ {now : Instant} {call : Call}, call.LeavesStatus →
      d.backend ≠ (c.backend.perform now call).2 := by
    intro now call leaves same
    rw [same] at after
    rcases Backend.performLeaves leaves after with ⟨-, unstarted⟩ | ⟨old, before, status⟩
    · exact Task.freshIdle unstarted (Task.runsForIff.mp runs).1
    · exact fresh old before status
  cases step with
  | taken | ended | worked => exact absurd rfl changed
  | written now call leaves => exact absurd rfl (restated leaves)
  | @asked i told call next now turn =>
    have inside := List.mem_of_getElem? turn
    obtain ⟨may, -⟩ := h.obeys _ inside
    rcases mayWrite may with leaves | ⟨o, rfl, admitted⟩
    · exact absurd rfl (restated leaves)
    · have write := c.backend.performTasks now (.updateStatus .task o)
      have origin := write.found after
      rcases origin with ⟨o', impossible, -⟩ | ⟨old, before, status⟩ | ⟨o', old, same, -, own, status⟩
      · cases impossible
      · exact absurd status (fresh old before)
      · cases same
        obtain ⟨running, counted⟩ := Task.runsForIff.mp runs
        rw [Task.phaseSame status] at running
        obtain ⟨a, known, admission⟩ := admitted running
        have mine : a.key = agent := by
          rw [Task.agentRecorded (by rw [status]; exact known)] at counted
          exact Option.some.inj counted
        have room := admission.room limit (informed _ inside a admission.read mine)
        rw [mine] at room
        have place : t.key = key :=
          (c.backend.perform now (.updateStatus .task o)).2.store.tasks.keyed after
        exact ⟨told, o, ⟨⟨next, inside⟩, now, rfl⟩, own.symm.trans place, room⟩

/-- Whatever the workers and the others do from a time when no task of the agent
runs, admissions that overlap let in one less than their number over the limit. -/
theorem admissionsBounded {start : Crew} (past : Reachable start) (idle : ∀ w ∈ start.workers, w = .idle)
    (lead : Run (Limited agent limit) start c) (none : c.running agent = 0)
    (run : Run (Limited agent limit) c d) :
    d.running agent ≤ limit.toNat + d.workers.length - 1 ∧
    (Run (fun e => Limited agent limit e ∧ e.inFlight agent limit ≤ 1) c d →
      d.running agent ≤ limit.toNat) ∧
    (∀ e key t, Step d e → e.backend.store.get? .task key = some t → t.runsFor agent = true →
      (∀ old, d.backend.store.get? .task key = some old → old.runsFor agent = false) →
      ∃ told o, Wrote d e told o ∧ o.key = key ∧ ∃ tasks, capacityRead told = some tasks ∧
        Admission.countRunning agent tasks < limit.toNat) := by
  have begun : Orderly c := lead.orderly past.orderly
  have informed : Informed agent limit c := lead.informed (fun _ limited => limited) (idleInformed idle)
  refine ⟨?_, ?_, ?_⟩
  · have few : ∀ e : Crew, Limited agent limit e ∧ e.workers.length = c.workers.length →
        e.inFlight agent limit ≤ c.workers.length := by
      intro e sized
      rw [← sized.2]
      exact List.countP_le_length
    have all := run.sized.bounded (fun _ holds => holds.1) few begun informed none
    rw [run.size]
    omega
  · intro apart
    have all := apart.bounded (fun _ holds => holds.1) (fun _ holds => holds.2) begun informed none
    omega
  · intro e key t step
    exact step.starts (run.orderly begun) (run.informed (fun _ limited => limited) informed)

def turn (now : Instant) (c : Crew) (i : Nat) : Crew :=
  match c.workers[i]? with
  | some (.busy told (.call call next)) =>
    { backend := (c.backend.perform now call).2
      workers := c.workers.set i (.busy (told ++ [⟨call, (c.backend.perform now call).1⟩])
        (next (c.backend.perform now call).1)) }
  | some (.busy _ (.done _)) => { c with workers := c.workers.set i .idle }
  | _ => c

theorem turnRun (now : Instant) (i : Nat) (h : Orderly c) (limited : Limited agent limit c) :
    Run (Limited agent limit) c (c.turn now i) := by
  unfold turn
  split
  · rename_i told call next turn
    obtain ⟨may, -⟩ := h.obeys _ (List.mem_of_getElem? turn)
    refine .step (.start limited) (.asked c now turn) ?_
    intro a stored
    change (c.backend.perform now call).2.store.agents.objects.get? agent = some a at stored
    rw [mayAgents may] at stored
    exact limited a stored
  · rename_i turn
    exact .step (.start limited) (.ended c turn) limited
  · exact .start limited

theorem turnsRun (now : Instant) (turns : List Nat) (h : Orderly c)
    (limited : Limited agent limit c) : Run (Limited agent limit) c (turns.foldl (turn now) c) := by
  induction turns generalizing c with
  | nil => exact .start limited
  | cons i rest ih =>
    have first := turnRun now i h limited
    exact first.trans (ih (first.orderly h) first.holds)

def pair (now : Instant) (agent one two : Key) : Crew where
  backend := (((Backend.empty.perform now (.create .agent (Agent.bare agent (some 1)))).2.perform now
    (.create .task (Task.bare one agent.name))).2.perform now
    (.create .task (Task.bare two agent.name))).2
  workers := [.idle, .idle]

def pairTaken (now : Instant) (agent one two : Key) : Crew where
  backend := (pair now agent one two).backend
  workers := [.busy [] (Reconciler.bare.reconcile now one), .busy [] (Reconciler.bare.reconcile now two)]

def overlap (now : Instant) (agent one two : Key) : Crew :=
  [0, 0, 0, 0, 1, 1, 1, 1, 0, 0, 1, 1].foldl (turn now) (pairTaken now agent one two)

theorem pairReachable (now : Instant) (agent one two : Key) : Reachable (pair now agent one two) := by
  have nothing : Reachable ⟨.empty, [.idle, .idle]⟩ := .start rfl (by simp)
  have made := nothing.step (.written _ now (.create .agent (Agent.bare agent (some 1))) trivial)
  have first := made.step (.written _ now (.create .task (Task.bare one agent.name)) rfl)
  exact first.step (.written _ now (.create .task (Task.bare two agent.name)) rfl)

theorem overlapRun {now : Instant} {one two : Key}
    (limited : Limited agent limit (pair now agent one two)) :
    Run (Limited agent limit) (pair now agent one two) (overlap now agent one two) := by
  have first := Step.taken (pair now agent one two) (i := 0) Reconciler.bare now one rfl
  have second := Step.taken ⟨(pair now agent one two).backend,
    [.busy [] (Reconciler.bare.reconcile now one), .idle]⟩ (i := 1) Reconciler.bare now two rfl
  have taken : Run (Limited agent limit) (pair now agent one two) (pairTaken now agent one two) :=
    .step (.step (.start limited) first limited) second limited
  have order := taken.orderly (pairReachable now agent one two).orderly
  exact taken.trans (turnsRun now _ order limited)

theorem pairLimited : Limited ⟨"ns", "agent"⟩ 1
    (pair default ⟨"ns", "agent"⟩ ⟨"ns", "one"⟩ ⟨"ns", "two"⟩) := by
  intro a stored
  have limit : ((pair default ⟨"ns", "agent"⟩ ⟨"ns", "one"⟩ ⟨"ns", "two"⟩).backend.store.get? .agent
      ⟨"ns", "agent"⟩).map (·.spec.maxConcurrentTasks) = some (some 1) := by decide +kernel
  rw [stored] at limit
  exact Option.some.inj limit

theorem overlapFills :
    (overlap default ⟨"ns", "agent"⟩ ⟨"ns", "one"⟩ ⟨"ns", "two"⟩).running ⟨"ns", "agent"⟩ = 2 ∧
    (overlap default ⟨"ns", "agent"⟩ ⟨"ns", "one"⟩ ⟨"ns", "two"⟩).running ⟨"ns", "agent"⟩ ≤
      (1 : UInt32).toNat +
        (overlap default ⟨"ns", "agent"⟩ ⟨"ns", "one"⟩ ⟨"ns", "two"⟩).workers.length - 1 :=
  ⟨by decide +kernel, (admissionsBounded (pairReachable _ _ _ _) (by simp [pair])
    (.start pairLimited) (by decide +kernel) (overlapRun pairLimited)).1⟩

end Crew
end Turnstile
