import Turnstile.Proofs.Reconcile.Change
import Turnstile.Proofs.Webhook.Judging
import Turnstile.Proofs.Webhook.Making
/-! At most one at a time. Under `forbid` a task is made only where its scope is vacant, no
other draft makes one there, and nothing else that happens brings an active task into it. -/
namespace Turnstile
open Webhook

def TriggerSpec.Forbids (spec : TriggerSpec) : Option String → Prop
  | none => spec.taskTemplate.isSome = true ∧ spec.concurrencyPolicy = .forbid
  | some name => ∃ rule ∈ spec.rules, rule.name = name ∧ spec.policyFor rule = .forbid

namespace Backend

def Alone (selector : Selector) (b : Backend) : Prop :=
  ∀ key other t u, b.store.get? .task key = some t → b.store.get? .task other = some u →
    t.occupies selector = true → u.occupies selector = true → key = other

def Spares (selector : Selector) (b after : Backend) : Prop :=
  ∀ key t, after.store.get? .task key = some t → t.occupies selector = true →
    ∃ old, b.store.get? .task key = some old ∧ old.occupies selector = true

section
variable {selector other : Selector} {b after : Backend}

theorem Alone.spared (alone : b.Alone selector) (spares : b.Spares selector after) :
    after.Alone selector := by
  intro key key' t u found found' busy busy'
  obtain ⟨old, before, was⟩ := spares key t found busy
  obtain ⟨old', before', was'⟩ := spares key' u found' busy'
  exact alone key key' old old' before before' was was'

theorem Alone.occupants (alone : b.Alone selector) : (b.store.occupants selector).length ≤ 1 := by
  have distinct : ((b.store.occupants selector).map Task.key).Nodup :=
    ((List.filter_sublist.trans List.filter_sublist).map Task.key).nodup b.store.tasks.keysDistinct
  have one : ∀ t ∈ b.store.occupants selector, ∀ u ∈ b.store.occupants selector, t.key = u.key := by
    intro t inside u inside'
    obtain ⟨stored, busy⟩ := Store.memOccupants.mp inside
    obtain ⟨stored', busy'⟩ := Store.memOccupants.mp inside'
    exact alone _ _ t u stored stored' busy busy'
  match listed : b.store.occupants selector with
  | [] => exact Nat.zero_le _
  | [_] => exact Nat.le_refl _
  | t :: u :: rest =>
    rw [listed] at distinct one
    have same : t.key = u.key := one t (by simp) u (by simp)
    simp [same] at distinct

theorem sparesSame (tasks : after.store.tasks = b.store.tasks) : b.Spares selector after := by
  intro key t found busy
  rw [Store.sameFound tasks] at found
  exact ⟨t, found, busy⟩

theorem Marked.spares (marked : b.Marked other after) : b.Spares selector after := by
  intro key t found busy
  obtain ⟨old, before, rest⟩ := marked.origin found
  exact ⟨old, before, by rwa [Task.occupiesUnmarked rest] at busy⟩

theorem reconcileSpares (r : Reconciler) (now : Instant) (key : Key) (b : Backend) :
    b.Spares selector ((r.reconcile now key).run now b).2 := by
  intro other t found busy
  obtain ⟨old, before, rfl | ⟨rfl, version, change, wrote, rfl⟩⟩ :=
    (Reconcile.reconcileChanged r now b key).origin found
  · exact ⟨t, before, busy⟩
  · refine ⟨old, before, Task.occupiesIff.mpr ⟨(Task.occupiesIff.mp busy).1, ?_⟩⟩
    rw [Task.isActive, wrote.active]
    rfl

end
end Backend

namespace Webhook
variable {trigger : WebhookTrigger} {names : Nat → String} {name : String} {now : Instant}
  {selector : Selector} {b after : Backend}

def Draft.Fits (trigger : WebhookTrigger) (selector : Selector) (d : Draft) : Prop :=
  (∃ name, selector.matchesMetadata (newTask trigger d name).metadata = true) →
    d.policy = .forbid ∧ scope trigger.metadata.ns trigger.metadata.name d.rule = selector

theorem Making.alone {d : Draft} {result} (making : Making trigger name d now b result after)
    (fits : d.Fits trigger selector) (alone : b.Alone selector) : after.Alone selector := by
  cases making with
  | skipped busy marked => exact alone.spared marked.spares
  | refused marked same => exact (alone.spared marked.spares).spared (Backend.sparesSame same)
  | @made version middle _ free marked vacant put =>
    have found : ∀ key t, after.store.get? .task key = some t → t.occupies selector = true →
        (selector.matchesMetadata (newTask trigger d name).metadata = true ∧
          key = ⟨trigger.metadata.ns, name⟩) ∨
        ∃ old, middle.store.get? .task key = some old ∧ old.occupies selector = true := by
      intro key t there busy
      change after.store.tasks.objects.get? key = some t at there
      rw [put] at there
      rcases Collection.putFound there with ⟨own, rfl⟩ | ⟨-, before⟩
      · exact .inl ⟨(Task.occupiesIff.mp busy).1, own⟩
      · exact .inr ⟨t, before, busy⟩
    by_cases carries : selector.matchesMetadata (newTask trigger d name).metadata = true
    · -- the scope was vacant, so the new task is the one that occupies it
      obtain ⟨policy, same⟩ := fits ⟨name, carries⟩
      have before : (b.store.occupants selector).isEmpty = true := by
        rw [← same]
        simpa [admits, policy] using free
      have empty : (middle.store.occupants selector).isEmpty = true := (marked.vacant selector).trans before
      have own : ∀ key t, after.store.get? .task key = some t → t.occupies selector = true →
          key = ⟨trigger.metadata.ns, name⟩ := by
        intro key t there busy
        rcases found key t there busy with ⟨-, own⟩ | ⟨old, before, was⟩
        · exact own
        · rw [Store.vacantIff.mp empty key old before] at was
          cases was
      intro key other t u there there' busy busy'
      rw [own key t there busy, own other u there' busy']
    · refine (alone.spared marked.spares).spared fun key t there busy => ?_
      exact (found key t there busy).resolve_left fun new => carries new.1

theorem Makes.alone {n : Nat} {ds : List Draft} {result} (makes : Makes trigger names now n b ds result after)
    (fits : ∀ d ∈ ds, d.Fits trigger selector) (alone : b.Alone selector) : after.Alone selector := by
  induction makes with
  | done => exact alone
  | skipped one _ ih | made one _ ih =>
    exact ih (fun d inside => fits d (List.mem_cons_of_mem _ inside))
      (one.alone (fits _ List.mem_cons_self) alone)
  | refused one => exact one.alone (fits _ List.mem_cons_self) alone

theorem fitsServed {registry : Registry} (sound : registry.Sound) {key home : Key} {spec : TriggerSpec}
    {rule : Option String} (own : ∀ t, registry.get? key = some t → t.spec = spec)
    (forbids : spec.Forbids rule) (served : registry.get? home = some trigger) {d : Draft}
    (made : d.From trigger.spec) : d.Fits trigger (scope key.ns key.name rule) := by
  rintro ⟨name, carries⟩
  obtain ⟨ns, label, ruled⟩ := scopeIff.mp carries
  rw [newTaskLabels, if_neg (fun h => absurd h.1 (by decide)), if_pos rfl] at label
  have mine : trigger.key = key := by
    cases key
    cases ns
    cases label
    rfl
  have there : home = key := (sound.keyed home trigger served).symm.trans mine
  subst there
  have valid := sound.valid home trigger served
  rw [own trigger served] at made valid
  have named : trigger.metadata.ns = home.ns ∧ trigger.metadata.name = home.name :=
    ⟨ns, Option.some.inj label⟩
  cases made with
  | template only =>
    cases rule with
    | none => exact ⟨forbids.2, by rw [named.1, named.2]⟩
    | some r =>
      obtain ⟨listed, inside, -⟩ := forbids
      rw [TriggerSpec.rulesOnly valid (List.ne_nil_of_mem inside)] at only
      cases only
  | @rule listed s bare inside =>
    cases rule with
    | none =>
      have template := forbids.1
      rw [bare] at template
      cases template
    | some r =>
      obtain ⟨twin, inside', same, policy⟩ := forbids
      have labelled := ruled r rfl
      rw [newTaskLabels, if_pos ⟨rfl, rfl⟩] at labelled
      have name : listed.name = r := Option.some.inj labelled
      rw [← TriggerSpec.ruleOfName valid inside inside' (name.trans same.symm)] at policy
      exact ⟨policy, by rw [named.1, named.2, ← name]⟩

end Webhook

structure Scene where
  registry : Registry
  backend : Backend

namespace Scene

/-- What may happen. What others write gives no status, and brings no task into the scope. -/
inductive Step (selector : Selector) : Scene → Scene → Prop where
  | delivered (c : Scene) (sources : SecretSources) (names : Nat → String) (now : Instant)
      (engine : FilterEngine) (request : WebhookRequest) : Step selector c { c with
        backend := ((handle c.registry sources names now engine request).1.run now c.backend).2 }
  | reconciled (c : Scene) (r : Reconciler) (now : Instant) (key : Key) : Step selector c { c with
      backend := ((r.reconcile now key).run now c.backend).2 }
  | stopped (c : Scene) (now : Instant) (key : Key) : Step selector c { c with
      backend := ((Task.requestStop key).run now c.backend).2 }
  | synced (c : Scene) (base : String) (now : Instant) (key : Key) : Step selector c
      ⟨((TriggerController.sync base c.registry key).run now c.backend).1,
        ((TriggerController.sync base c.registry key).run now c.backend).2⟩
  | resynced (c : Scene) (base : String) (now : Instant) : Step selector c
      ⟨((TriggerController.resync base c.registry).run now c.backend).1,
        ((TriggerController.resync base c.registry).run now c.backend).2⟩
  | finished (c : Scene) (run : Key) (status : WorkloadStatus) : Step selector c { c with
      backend := { c.backend with workloads := (c.backend.workloads.finish run status).2 } }
  | evicted (c : Scene) (run : Key) : Step selector c { c with
      backend := { c.backend with workloads := (c.backend.workloads.evict run).2 } }
  | written (c : Scene) (now : Instant) (call : Call) (leaves : call.LeavesStatus)
      (unlabelled : ∀ key t, (c.backend.perform now call).2.store.get? .task key = some t →
        selector.matchesMetadata t.metadata = true → ∃ old,
          c.backend.store.get? .task key = some old ∧ selector.matchesMetadata old.metadata = true) :
      Step selector c { c with backend := (c.backend.perform now call).2 }

inductive Run (selector : Selector) (always : Scene → Prop) : Scene → Scene → Prop where
  | start {c : Scene} (holds : always c) : Run selector always c c
  | step {c d e : Scene} (past : Run selector always c d) (next : Step selector d e) (holds : always e) :
      Run selector always c e

def Fixed (key : Key) (spec : TriggerSpec) (c : Scene) : Prop :=
  ∀ t, c.registry.get? key = some t → t.spec = spec

variable {c d : Scene} {key : Key} {spec : TriggerSpec} {rule : Option String} {selector : Selector}

theorem Step.sound (step : Step selector c d) (sound : c.registry.Sound) : d.registry.Sound := by
  cases step with
  | delivered | reconciled | stopped | finished | evicted | written => exact sound
  | synced base now key => exact TriggerController.soundRun (TriggerController.syncSound base sound key) now _
  | resynced base now => exact TriggerController.soundRun (TriggerController.resyncSound base sound) now _

theorem Step.alone (step : Step (scope key.ns key.name rule) c d) (sound : c.registry.Sound)
    (fixed : Fixed key spec c) (forbids : spec.Forbids rule)
    (alone : c.backend.Alone (scope key.ns key.name rule)) :
    d.backend.Alone (scope key.ns key.name rule) := by
  cases step with
  | finished | evicted => exact alone.spared (Backend.sparesSame rfl)
  | reconciled r now key => exact alone.spared (Backend.reconcileSpares r now key c.backend)
  | stopped now key =>
    have marked : c.backend.Marked .all ((Task.requestStop key).run now c.backend).2 :=
      Task.stopMarks key conflictAttempts fun _ _ => rfl
    exact alone.spared marked.spares
  | synced base now key =>
    exact alone.spared (Backend.sparesSame (Procedure.onTriggersRun
      (TriggerController.syncOnTriggers base c.registry key) now c.backend))
  | resynced base now =>
    exact alone.spared (Backend.sparesSame (Procedure.onTriggersRun
      (TriggerController.resyncOnTriggers base c.registry) now c.backend))
  | written now call leaves unlabelled =>
    refine alone.spared fun other t found busy => ?_
    obtain ⟨carries, active⟩ := Task.occupiesIff.mp busy
    obtain ⟨old, before, was⟩ := unlabelled other t found carries
    refine ⟨old, before, Task.occupiesIff.mpr ⟨was, ?_⟩⟩
    rcases Backend.performLeaves leaves found with ⟨absent, -⟩ | ⟨same, stored, status⟩
    · rw [before] at absent
      cases absent
    · rw [before] at stored
      cases stored
      rw [Task.isActive, Task.phase, status] at active
      exact active
  | delivered sources names now engine request =>
    unfold handle
    split
    · exact alone
    · rename_i plan after judged
      obtain ⟨⟨home, served⟩, made⟩ := judgedFrom judged
      obtain ⟨out, failure, after, makes, same, -⟩ := carryOutMakes plan
        (fun i => plan.trigger.metadata.name ++ "-" ++ names i) now c.backend
      refine (makes.alone (fun d inside => ?_) alone).spared (Backend.sparesSame same)
      exact fitsServed sound fixed forbids served (made d inside)

/-- A scope under `forbid` never has more than one active task, whatever happens from a
store in which no task carries its labels. -/
theorem forbidAdmitsOne {start : Scene} (served : start.registry.Sound) (forbids : spec.Forbids rule)
    (unlabelled : start.backend.store.list .task (scope key.ns key.name rule) = [])
    (run : Run (scope key.ns key.name rule) (Fixed key spec) start c) :
    (c.backend.store.occupants (scope key.ns key.name rule)).length ≤ 1 := by
  have vacant : start.backend.Alone (scope key.ns key.name rule) := by
    have empty : (start.backend.store.occupants (scope key.ns key.name rule)).isEmpty = true := by
      rw [Store.occupants, unlabelled]
      rfl
    intro key _ t _ found _ busy
    rw [Store.vacantIff.mp empty key t found] at busy
    cases busy
  have held : c.registry.Sound ∧ Fixed key spec c ∧ c.backend.Alone (scope key.ns key.name rule) := by
    induction run with
    | start holds => exact ⟨served, holds, vacant⟩
    | step _ next holds ih => exact ⟨next.sound ih.1, holds, next.alone ih.1 ih.2.1 forbids ih.2.2⟩
  exact held.2.2.occupants

def oneTemplate : WebhookTrigger :=
  ⟨Metadata.ofKey ⟨"ns", "hook"⟩, ⟨none, "", .forbid, some ⟨"", none, [], [], none, .empty⟩, []⟩, .fresh⟩

def opened : Scene := ⟨(Registry.empty.register oneTemplate).2, .empty⟩

def called (c : Scene) (name : String) : Scene := { c with
  backend := ((handle c.registry ⟨none, .empty⟩ (fun _ => name) default .empty
    ⟨"ns/hook", .empty, Auth.bytesOf "[]"⟩).1.run default c.backend).2 }

def hookScope : Selector := scope oneTemplate.key.ns oneTemplate.key.name none

theorem calledRun {c d : Scene} {key : Key} {spec : TriggerSpec} (name : String)
    (run : Run hookScope (Fixed key spec) c d) (fixed : Fixed key spec d) :
    Run hookScope (Fixed key spec) c (d.called name) ∧ Fixed key spec (d.called name) :=
  ⟨.step run (.delivered d _ _ _ _ _) fixed, fixed⟩

theorem calledTwice :
    (((opened.called "one").called "two").backend.store.occupants hookScope).map Task.key =
      [⟨"ns", "hook-one"⟩] ∧
    (((opened.called "one").called "two").backend.store.occupants hookScope).length ≤ 1 := by
  have served : opened.registry.Sound := Registry.emptySound.register oneTemplate
  have fixed : Fixed oneTemplate.key oneTemplate.spec opened := by
    intro t found
    rw [show opened.registry.get? oneTemplate.key = some oneTemplate by decide +kernel] at found
    rw [← Option.some.inj found]
  obtain ⟨first, still⟩ := calledRun "one" (.start fixed) fixed
  obtain ⟨run, -⟩ := calledRun "two" first still
  have forbids : oneTemplate.spec.Forbids none := ⟨rfl, rfl⟩
  have unlabelled : opened.backend.store.list .task hookScope = [] := by decide +kernel
  exact ⟨by decide +kernel, forbidAdmitsOne served forbids unlabelled run⟩

end Scene
end Turnstile
