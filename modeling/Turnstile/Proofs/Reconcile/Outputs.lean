import Mathlib.Data.List.Nodup
import Turnstile.Proofs.Reconcile.Visit
import Turnstile.Proofs.SortedMap
/-! Outputs of a task that succeeded. What its workload reported stands. A name that was not reported
takes its default from the task's own declarations, or else, if the task does not declare it, from
those of its template. -/
namespace Turnstile

def OutputSpec.default? (name : String) (declared : List OutputSpec) : Option String :=
  (declared.filter (·.name = name)).findSome? (·.default)

def OutputSpec.Declares (declared : List OutputSpec) (name : String) : Prop := ∃ o ∈ declared, o.name = name

instance (declared : List OutputSpec) (name : String) : Decidable (OutputSpec.Declares declared name) :=
  inferInstanceAs (Decidable (∃ o ∈ declared, o.name = name))

namespace OutputSpec
variable {name : String}

theorem defaultCons (o : OutputSpec) (rest : List OutputSpec) : default? name (o :: rest) =
    if o.name = name then o.default.or (default? name rest) else default? name rest := by
  by_cases same : o.name = name
  · cases value : o.default <;> simp [default?, same, value]
  · simp [default?, same]

theorem defaultAppend (front back : List OutputSpec) :
    default? name (front ++ back) = (default? name front).or (default? name back) := by
  rw [default?, List.filter_append, List.findSome?_append]
  rfl

theorem defaultUndeclared {declared : List OutputSpec} (undeclared : ¬ Declares declared name) :
    default? name declared = none := by
  have nothing : declared.filter (·.name = name) = [] :=
    List.filter_eq_nil_iff.mpr fun o inside same => undeclared ⟨o, inside, of_decide_eq_true same⟩
  rw [default?, nothing]
  rfl

end OutputSpec

namespace TemplateSpec
open OutputSpec
variable (template : TemplateSpec) (task : TaskSpec)

theorem mergedOutputs : (template.mergeInto task).outputs =
    template.outputs.filter (fun o => !task.outputs.any (·.name == o.name)) ++ task.outputs := rfl

theorem keptIff {o : OutputSpec} :
    (!task.outputs.any (·.name == o.name)) = true ↔ ¬ Declares task.outputs o.name := by
  simp [Declares]

theorem mergedDefault (name : String) : default? name (template.mergeInto task).outputs =
    if Declares task.outputs name then default? name task.outputs else default? name template.outputs := by
  rw [mergedOutputs, defaultAppend]
  split
  · rename_i own
    rw [defaultUndeclared, Option.none_or]
    rintro ⟨o, inside, rfl⟩
    exact (keptIff task).mp (List.mem_filter.mp inside).2 own
  · rename_i other
    have all : (template.outputs.filter fun o => !task.outputs.any (·.name == o.name)).filter (·.name = name) =
        template.outputs.filter (·.name = name) := by
      rw [List.filter_filter]
      refine List.filter_congr fun o _ => ?_
      by_cases same : o.name = name
      · subst same
        rw [(keptIff task).mpr other, Bool.and_true]
      · simp [same]
    rw [defaultUndeclared other, Option.or_none, default?, all]
    rfl

theorem mergedDistinct (theirs : (template.outputs.map OutputSpec.name).Nodup)
    (own : (task.outputs.map OutputSpec.name).Nodup) :
    ((template.mergeInto task).outputs.map OutputSpec.name).Nodup := by
  rw [mergedOutputs, List.map_append]
  refine List.nodup_append.mpr ⟨theirs.sublist (List.filter_sublist.map _), own, ?_⟩
  rintro _ kept name listed rfl
  obtain ⟨o, inside, rfl⟩ := List.mem_map.mp kept
  exact (keptIff task).mp (List.mem_filter.mp inside).2 (List.mem_map.mp listed)

end TemplateSpec

namespace Reconcile
open OutputSpec

theorem outputFound (declared : List OutputSpec) (reported : TextMap) (name : String) :
    (withDefaults reported declared).get? name = (reported.get? name).or (default? name declared) := by
  unfold withDefaults
  induction declared generalizing reported with
  | nil => simp [default?]
  | cons o rest ih =>
    rw [List.foldl_cons, ih, defaultCons]
    cases default : o.default with
    | none => simp
    | some value =>
      dsimp only
      by_cases same : o.name = name
      · subst same
        cases found : reported.get? o.name <;> simp [SortedMap.contains, found]
      · rw [if_neg same]
        split
        · rfl
        · rw [SortedMap.getInsertOther _ _ (Ne.symm same)]

def templateOutputs (s : Store) (task : Task) : List OutputSpec :=
  match task.spec.templateRef.bind fun ref => s.get? .template (ref.resolve task.metadata.ns) with
  | some template => template.spec.outputs
  | none => []

theorem declaredDefault (s : Store) (task : Task) (name : String) : default? name (declaredIn s task) =
    if Declares task.spec.outputs name then default? name task.spec.outputs
    else default? name (templateOutputs s task) := by
  have alone : default? name task.spec.outputs =
      if Declares task.spec.outputs name then default? name task.spec.outputs else default? name [] := by
    split
    · rfl
    · exact defaultUndeclared ‹_›
  unfold declaredIn templateOutputs
  cases task.spec.templateRef with
  | none => exact alone
  | some ref =>
    dsimp only [Option.bind_some]
    cases s.get? .template (ref.resolve task.metadata.ns) with
    | none => exact alone
    | some template => exact template.spec.mergedDefault task.spec name

variable {r : Reconciler} {now : Instant} {b after : Backend} {key run : Key} {task : Task}
  {outcome : ReconcileOutcome} {observed : WorkloadStatus}

theorem Look.completed (look : Look r now b task outcome after) (recorded : recorded? task = some run)
    (reports : (b.workloads.status now run).1 = some observed) (succeeded : observed.state = .succeeded) :
    outcome = .done ∧ after = (polled now b run).noted task
      (completedStatus now (withDefaults observed.outputs (declaredIn b.store task))) := by
  have same {own : Key} {seen : WorkloadStatus} (has : recorded? task = some own)
      (found : (b.workloads.status now own).1 = some seen) : own = run ∧ seen = observed := by
    cases recorded.symm.trans has
    exact ⟨rfl, Option.some.inj (found.symm.trans reports)⟩
  cases look with
  | unrecorded nothing => rw [recorded] at nothing; cases nothing
  | vanished has absent =>
    cases recorded.symm.trans has
    rw [reports] at absent
    cases absent
  | running has found live =>
    obtain ⟨rfl, rfl⟩ := same has found
    rw [succeeded] at live
    cases live
  | succeeded has found =>
    obtain ⟨rfl, rfl⟩ := same has found
    exact ⟨rfl, rfl⟩
  | retried has found ended | failed has found ended =>
    obtain ⟨rfl, rfl⟩ := same has found
    rw [succeeded] at ended
    cases ended

end Reconcile
open Reconcile OutputSpec

/-- A running task whose workload succeeded is completed. Each name is given what was reported for it, or
else the first default that the task declares for it, or else, where the task does not declare it,
the first that its template does, if that is still there. Declarations of distinct names stay
distinct when they are merged. -/
theorem outputsGiven {r : Reconciler} {now : Instant} {b : Backend} {key run : Key} {task : Task}
    {observed : WorkloadStatus} (stored : b.store.get? .task key = some task)
    (running : task.phase = .running) (free : task.stopRequested = false)
    (recorded : recorded? task = some run) (reports : (b.workloads.status now run).1 = some observed)
    (succeeded : observed.state = .succeeded) :
    (((r.reconcile now key).run now b).1 = .ok .done ∧
      ∃ after : Task, ((r.reconcile now key).run now b).2.store.get? .task key = some after ∧
        after.phase = .completed ∧
        ∀ name, after.status.outputs.get? name = (observed.outputs.get? name).or
          (if Declares task.spec.outputs name then default? name task.spec.outputs
            else default? name (templateOutputs b.store task))) ∧
    ∀ (template : TemplateSpec) (spec : TaskSpec), (template.outputs.map OutputSpec.name).Nodup →
      (spec.outputs.map OutputSpec.name).Nodup →
      ((template.mergeInto spec).outputs.map OutputSpec.name).Nodup := by
  refine ⟨?_, fun template spec => template.mergedDistinct spec⟩
  obtain ⟨outcome, given, visit⟩ := reconcileVisits r now b key
  obtain ⟨rfl, left⟩ := (visit.look stored running free).completed recorded reports succeeded
  have own := b.store.tasks.keyed stored
  subst own
  have there : (polled now b run).store.get? .task task.key = some task := stored
  obtain ⟨version, written, -⟩ := Backend.notedCount
    (completedStatus now (withDefaults observed.outputs (declaredIn b.store task))) there
  refine ⟨given, _, by rw [left]; exact written, rfl, fun name => ?_⟩
  have outputs : (task.withStatus version (task.changed (completedStatus now
      (withDefaults observed.outputs (declaredIn b.store task))))).status.outputs =
    withDefaults observed.outputs (declaredIn b.store task) := rfl
  rw [outputs, outputFound, declaredDefault]

def reporting : Task :=
  { Task.bare ⟨"ns", "task"⟩ "agent" with
    spec := { (Task.bare ⟨"ns", "task"⟩ "agent").spec with
      outputs := [⟨"branch", none, none⟩, ⟨"title", none, some "first"⟩, ⟨"title", none, some "second"⟩]
      templateRef := some ⟨"base", none⟩ }
    status := { TaskStatus.fresh with phase := some .running, attempts := 1, workloadName := some "task-1" } }

def reportingBase : TaskTemplate :=
  ⟨Metadata.ofKey ⟨"ns", "base"⟩,
    ⟨none, none, [], [⟨"branch", none, some "main"⟩, ⟨"url", none, some "nowhere"⟩, ⟨"count", none, some "0"⟩]⟩⟩

def reported : WorkloadStatus := ⟨.succeeded, none, SortedMap.empty.insert "count" "3"⟩

def finished : Backend where
  store := { Store.empty with
    tasks := Collection.empty.put reporting
    templates := Collection.empty.put reportingBase }
  workloads := ⟨SortedMap.empty.insert ⟨"ns", "task-1"⟩
    ⟨⟨⟨"ns", "task-1"⟩, reporting.key, reporting.spec, Agent.bare ⟨"ns", "agent"⟩ none, 1⟩, default, reported⟩, none⟩

/-- A declaration without a default hides the one of the template all the same. -/
theorem ownDeclarationHides : finished.store.get? .task ⟨"ns", "task"⟩ = some reporting ∧
    (finished.workloads.status default ⟨"ns", "task-1"⟩).1 = some reported ∧
    ∃ after : Task, ((Reconciler.bare.reconcile default ⟨"ns", "task"⟩).run default finished).2.store.get? .task
        ⟨"ns", "task"⟩ = some after ∧ after.phase = .completed ∧
      after.status.outputs.get? "count" = some "3" ∧ after.status.outputs.get? "title" = some "first" ∧
      after.status.outputs.get? "branch" = none ∧ after.status.outputs.get? "url" = some "nowhere" ∧
      ((reportingBase.spec.mergeInto ⟨"", none, [], [⟨"url", none, none⟩], none, none⟩).outputs.map
        OutputSpec.name).Nodup := by
  have stored : finished.store.get? .task ⟨"ns", "task"⟩ = some reporting := by decide +kernel
  have reports : (finished.workloads.status default ⟨"ns", "task-1"⟩).1 = some reported := by decide +kernel
  obtain ⟨⟨-, after, written, completed, given⟩, distinct⟩ := outputsGiven (r := Reconciler.bare) stored
    (by decide) (by decide +kernel) (by decide +kernel) reports rfl
  refine ⟨stored, reports, after, written, completed, (given _).trans ?_, (given _).trans ?_, (given _).trans ?_,
    (given _).trans ?_, distinct _ _ (by decide) (by decide)⟩ <;> decide +kernel

end Turnstile
