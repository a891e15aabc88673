import Turnstile.Controller.Tasks
import Turnstile.Proofs.Admission.Requirements
import Turnstile.Proofs.Queue.HandOut
import Turnstile.Proofs.Webhook.Scope
/-! Who is woken by a change of an agent: the unfinished tasks that count against it. A task that gets its
agent from its template counts against none until it is let into a line, and is not woken by it. -/
namespace Turnstile

namespace WorkQueue
variable {K : Type}

/-- In line, delayed, or added since it was last handed out. -/
def Marked (q : WorkQueue K) (k : K) : Prop := k ∈ q.ready ∨ q.Keeps k

theorem emptyUnmarked {k : K} : ¬ (empty : WorkQueue K).Marked k := by
  rintro (line | dirty | delayed)
  · cases line
  · cases dirty
  · cases delayed

variable [DecidableEq K] {q : WorkQueue K} {k j : K}

theorem addRunning (running : q.isShutdown = false) : (q.add k).isShutdown = false := by
  rcases addCases (k := k) running with ⟨-, same⟩ | ⟨-, -, same⟩ | ⟨-, -, same⟩ <;> rw [same] <;> exact running

theorem addMarked (running : q.isShutdown = false) : (q.add k).Marked j ↔ q.Marked j ∨ j = k := by
  unfold Marked Keeps
  rcases addCases (k := k) running with ⟨dirty, same⟩ | ⟨-, -, same⟩ | ⟨-, -, same⟩ <;> rw [same]
  · exact (or_iff_left_of_imp fun own => .inr (.inl (own ▸ dirty))).symm
  · simp only [List.mem_cons]
    grind
  · simp only [List.mem_cons, List.mem_append]
    grind

section
variable {ks : List K}

theorem addAllDirty (running : q.isShutdown = false) : j ∈ (q.addAll ks).dirty ↔ j ∈ q.dirty ∨ j ∈ ks := by
  unfold addAll
  induction ks generalizing q with
  | nil => simp
  | cons k rest ih =>
    rw [List.foldl_cons, ih (addRunning running), addDirtyIff running, List.mem_cons, or_comm (a := j = k), or_assoc]

theorem addAllMarked (running : q.isShutdown = false) : (q.addAll ks).Marked j ↔ q.Marked j ∨ j ∈ ks := by
  unfold addAll
  induction ks generalizing q with
  | nil => simp
  | cons k rest ih => rw [List.foldl_cons, ih (addRunning running), addMarked running, List.mem_cons, or_assoc]

theorem addAllDelayed : (q.addAll ks).delayed = q.delayed := by
  have one (q : WorkQueue K) (k : K) : (q.add k).delayed = q.delayed := by
    unfold add
    split
    · rfl
    · split <;> rfl
  unfold addAll
  induction ks generalizing q with
  | nil => rfl
  | cons k rest ih => exact ih.trans (one q k)

end

end WorkQueue

namespace Requirement
variable {s : Store} {t : Task} {spec : TaskSpec} {agent : Key}

theorem mergedOwn {ref : Reference} (merged : mergedSpec s t = some spec) (own : t.spec.agentRef = some ref) :
    spec.agentRef = some ref := by
  unfold mergedSpec at merged
  split at merged
  · cases merged
    exact own
  · obtain ⟨template, -, rfl⟩ := Option.map_eq_some_iff.mp merged
    simp [TemplateSpec.mergeInto, own]

theorem countsFor (named : namedAgent s t = some agent) : t.agentKey? = some agent ↔
    t.status.agent = some agent ∨ (t.status.agent = none ∧ t.spec.agentRef.isSome = true) := by
  unfold Task.agentKey?
  cases t.status.agent with
  | some recorded => simp
  | none =>
    cases own : t.spec.agentRef with
    | none => simp
    | some ref =>
      obtain ⟨spec, merged, named⟩ := Option.bind_eq_some_iff.mp named
      rw [mergedOwn merged own] at named
      exact iff_of_true named (.inr ⟨rfl, rfl⟩)

end Requirement

namespace TaskController
variable {b : Backend} {now : Instant} {e : Event .agent} {key : Key} {q : WorkQueue Key}

theorem keysCounted (b : Backend) (agent : Key) (p : Task → Bool) :
    key ∈ keysOf ((Admission.countedAgainst agent (b.store.list .task .all)).filter p) ↔
      ∃ t, b.store.get? .task key = some t ∧ p t = true ∧ t.agentKey? = some agent := by
  have listed (t : Task) : t ∈ b.store.list .task .all ↔ b.store.get? .task t.key = some t := by
    rw [Store.listAll]
    exact b.store.stored
  unfold keysOf Admission.countedAgainst
  simp only [List.mem_map, List.mem_filter, listed, beq_iff_eq]
  constructor
  · rintro ⟨t, ⟨⟨stored, counted⟩, holds⟩, rfl⟩
    exact ⟨t, stored, holds, counted⟩
  · rintro ⟨t, stored, holds, counted⟩
    have own : t.key = key := b.store.tasks.keyed stored
    subst own
    exact ⟨t, ⟨⟨stored, counted⟩, holds⟩, rfl⟩

theorem wokenIff : key ∈ ((wokenByAgent e).run now b).1 ↔
    ∃ t, b.store.get? .task key = some t ∧ t.isActive = true ∧ t.agentKey? = some e.key :=
  keysCounted b e.key Task.isActive

/-- A change of an agent adds the unfinished tasks that count against it, and no other. Of the unfinished
tasks that resolve to the agent it marks, beside those that were marked, the ones that it is recorded for,
and of those without a record the ones that name it themselves. -/
theorem agentWakes (running : q.isShutdown = false) (e : Event .agent) (now : Instant) (b : Backend) :
    let after := q.addAll ((wokenByAgent e).run now b).1
    after.delayed = q.delayed ∧
    (∀ key, key ∈ after.dirty ↔ key ∈ q.dirty ∨
      ∃ t, b.store.get? .task key = some t ∧ t.isActive = true ∧ t.agentKey? = some e.key) ∧
    ∀ key t, b.store.get? .task key = some t → t.isActive = true →
      Requirement.namedAgent b.store t = some e.key →
      (after.Marked key ↔ q.Marked key ∨ t.status.agent = some e.key ∨
        (t.status.agent = none ∧ t.spec.agentRef.isSome = true)) := by
  refine ⟨WorkQueue.addAllDelayed, fun key => (WorkQueue.addAllDirty running).trans (or_congr_right wokenIff), ?_⟩
  intro key t stored active named
  refine (WorkQueue.addAllMarked running).trans (or_congr_right (wokenIff.trans ?_))
  refine Iff.trans ⟨?_, fun counted => ⟨t, stored, active, counted⟩⟩ (Requirement.countsFor named)
  rintro ⟨u, there, -, counted⟩
  cases stored.symm.trans there
  exact counted

theorem lateAgentWakes : ((WorkQueue.empty : WorkQueue Key).addAll
      ((wokenByAgent (.applied (Agent.bare ⟨"ns", "agent"⟩ none))).run default
        (.lone (Agent.bare ⟨"ns", "agent"⟩ none) ⟨"ns", "task"⟩)).1).Marked ⟨"ns", "task"⟩ := by
  have facts : ((Backend.lone (Agent.bare ⟨"ns", "agent"⟩ none) ⟨"ns", "task"⟩).store.get? .task
      ⟨"ns", "task"⟩).map (fun t => (t.isActive, Requirement.namedAgent
        (Backend.lone (Agent.bare ⟨"ns", "agent"⟩ none) ⟨"ns", "task"⟩).store t, t.status.agent,
          t.spec.agentRef.isSome)) = some (true, some ⟨"ns", "agent"⟩, none, true) := by
    decide +kernel
  obtain ⟨t, stored, facts⟩ := Option.map_eq_some_iff.mp facts
  obtain ⟨active, named, unrecorded, own⟩ : t.isActive = true ∧ _ ∧ t.status.agent = none ∧
      t.spec.agentRef.isSome = true := by
    simpa only [Prod.mk.injEq] using facts
  have wakes := agentWakes (q := .empty) rfl (.applied (Agent.bare ⟨"ns", "agent"⟩ none)) default
    (.lone (Agent.bare ⟨"ns", "agent"⟩ none) ⟨"ns", "task"⟩)
  exact (wakes.2.2 _ t stored active named).mpr (.inr (.inr ⟨unrecorded, own⟩))

def templated : Backend :=
  let spec : TaskSpec := ⟨"", none, [], [], some ⟨"template", none⟩, none⟩
  let template : TaskTemplate := ⟨Metadata.ofKey ⟨"ns", "template"⟩, ⟨none, some ⟨"agent", none⟩, [], []⟩⟩
  let b := (Backend.empty.perform default (.create .template template)).2
  let b := (b.perform default (.create .task ⟨Metadata.ofKey ⟨"ns", "task"⟩, spec, .fresh⟩)).2
  (b.perform default (.create .agent (Agent.bare ⟨"ns", "agent"⟩ none))).2

theorem templatedSleeps : ¬ ∀ (b : Backend) (now : Instant) (e : Event .agent) (q : WorkQueue Key) (key : Key)
    (t : Task), q.isShutdown = false → b.store.get? .task key = some t → t.isActive = true →
    Requirement.namedAgent b.store t = some e.key →
    (q.addAll ((wokenByAgent e).run now b).1).Marked key := by
  intro claim
  have facts : (templated.store.get? .task ⟨"ns", "task"⟩).map (fun t =>
      (t.isActive, Requirement.namedAgent templated.store t)) = some (true, some ⟨"ns", "agent"⟩) := by
    decide +kernel
  have woken : ((wokenByAgent (.applied (Agent.bare ⟨"ns", "agent"⟩ none))).run default templated).1 = [] := by
    decide +kernel
  obtain ⟨t, stored, facts⟩ := Option.map_eq_some_iff.mp facts
  obtain ⟨active, named⟩ := Prod.mk.inj facts
  have marked := claim templated default (.applied (Agent.bare ⟨"ns", "agent"⟩ none)) .empty _ t rfl stored active named
  rw [woken] at marked
  exact WorkQueue.emptyUnmarked marked

end TaskController
end Turnstile
