import Turnstile.Proofs.Reconcile.Stopping
import Turnstile.Proofs.Webhook.Rules
/-! One survivor. Under `replace` a task takes the place of those that are active in its scope:
they are asked to stop before it is made, it is not, and the tasks of other scopes are left as
they are. Their next reconciles end those that were asked. -/
namespace Turnstile

/-- A scope of a trigger, its own if it has one template and else one of its rules, and the policy
that new tasks of that scope are under. -/
def TriggerSpec.Governed (spec : TriggerSpec) (policy : ConcurrencyPolicy) : Option String → Prop
  | none => spec.taskTemplate.isSome = true ∧ spec.concurrencyPolicy = policy
  | some name => ∃ rule ∈ spec.rules, rule.name = name ∧ spec.policyFor rule = policy

namespace Backend
variable {b after : Backend} {now : Instant} {key : Key} {t : Task}

def Leaving (b : Backend) (key : Key) : Prop :=
  ∀ t, b.store.get? .task key = some t → t.isActive = true → t.stopRequested = true

theorem Leaving.same (leaving : b.Leaving key)
    (kept : after.store.get? .task key = b.store.get? .task key) : after.Leaving key :=
  fun t found => leaving t (kept ▸ found)

theorem markPut (now : Instant) (stored : b.store.get? .task key = some t) : ∃ u,
    (b.perform now (.update .task t.markStopped)).2.store.tasks = b.store.tasks.put u ∧
    u.key = key ∧ u.stopRequested = true := by
  have own : t.key = key := b.store.tasks.keyed stored
  subst own
  have written := Collection.replaceAgreed (c := b.store.tasks) (o := t.markStopped) (b.store.version + 1) 1
    Kind.task.keepStatus stored (.inr rfl)
  refine ⟨_, congrArg Prod.snd written, rfl, ?_⟩
  simp [Task.stopRequested, Collection.laterWrite, Kind.withMetadata, Kind.metadata, Kind.keepStatus,
    Task.markStopped]

end Backend

theorem Task.stopLeaves (key : Key) (now : Instant) (b : Backend) :
    ((Task.requestStop key).run now b).2.Leaving key ∧
      ∀ other, other ≠ key →
        ((Task.requestStop key).run now b).2.store.get? .task other = b.store.get? .task other := by
  have read : (Procedure.ask (.get .task key)).runWith (Backend.perform now) b =
      (.ok (b.store.get? .task key), b) := rfl
  unfold Task.requestStop conflictAttempts Task.requestStopWithin
  rw [Procedure.run, Procedure.runBind, read]
  cases stored : b.store.get? .task key with
  | none => exact ⟨fun t found => absurd (found.symm.trans stored) (Option.some_ne_none t), fun _ _ => rfl⟩
  | some task =>
    dsimp only
    split
    · rename_i spared
      refine ⟨fun t found active => ?_, fun _ _ => rfl⟩
      cases stored.symm.trans found
      simpa [active] using spared
    · obtain ⟨u, put, own, asked⟩ := Backend.markPut now stored
      have write : (Procedure.ask (.update .task task.markStopped)).runWith (Backend.perform now) b =
        b.perform now (.update .task task.markStopped) := rfl
      have agreed : ∃ o, (b.perform now (.update .task task.markStopped)).1 = .ok o := by
        cases b.store.tasks.keyed stored
        exact ⟨_, congrArg Prod.fst (Collection.replaceAgreed (c := b.store.tasks) (o := task.markStopped)
          (b.store.version + 1) 1 Kind.task.keepStatus stored (.inr rfl))⟩
      obtain ⟨o, reply⟩ := agreed
      rw [Procedure.runBind, write, reply]
      refine ⟨fun t found _ => ?_, fun other apart => Store.putOther put (own ▸ apart)⟩
      cases (own ▸ Store.putSame put).symm.trans found
      exact asked

namespace Webhook
variable {trigger : WebhookTrigger} {names : Nat → String} {name : String} {now : Instant}
  {b after : Backend} {key : Key} {d : Draft} {t : Task}

theorem stopAllLeaves (now : Instant) (tasks : List Task) (asked : b.Leaving key ∨ key ∈ tasks.map Task.key) :
    ((stopAll tasks).run now b).2.Leaving key := by
  induction tasks generalizing b with
  | nil => exact asked.resolve_right List.not_mem_nil
  | cons task rest ih =>
    unfold stopAll
    rw [Procedure.run, Procedure.runBind]
    obtain ⟨leaves, others⟩ := Task.stopLeaves task.key now b
    refine ih ?_
    by_cases own : key = task.key
    · exact .inl (own ▸ leaves)
    · rcases asked with before | listed
      · exact .inl (before.same (others key own))
      · exact .inr ((List.mem_cons.mp listed).resolve_left own)

theorem enforceSpares {policy : ConcurrencyPolicy} (spares : policy ≠ .replace) (ns trigger : String)
    (rule : Option String) (now : Instant) (b : Backend) :
    ((enforce policy ns trigger rule).run now b).2 = b := by
  cases policy with
  | allow | forbid => rfl
  | replace => exact absurd rfl spares

theorem enforceLeaves (ns trigger : String) (rule : Option String)
    (found : ((enforce .replace ns trigger rule).run now b).2.store.get? .task key = some t)
    (busy : t.occupies (scope ns trigger rule) = true) : t.stopRequested = true := by
  obtain ⟨after, run, marked⟩ := enforceRun .replace ns trigger rule now b
  have listed : (enforce .replace ns trigger rule).run now b =
      (stopAll (b.store.occupants (scope ns trigger rule)) >>= fun _ => pure (.ok true)).run now b := rfl
  have left : ((enforce .replace ns trigger rule).run now b).2 =
      ((stopAll (b.store.occupants (scope ns trigger rule))).run now b).2 := by
    rw [listed, Procedure.run, Procedure.runBind]
    rfl
  rw [run] at found left
  obtain ⟨old, before, rest⟩ := marked.origin found
  have own : old.key = key := b.store.tasks.keyed before
  subst own
  rw [Task.occupiesUnmarked rest] at busy
  refine stopAllLeaves now (b.store.occupants (scope ns trigger rule)) (.inr ?_) t (left ▸ found) ?_
  · exact List.mem_map.mpr ⟨old, Store.memOccupants.mpr ⟨before, busy⟩, rfl⟩
  · rw [← Task.occupiesUnmarked rest] at busy
    exact (Task.occupiesIff.mp busy).2

theorem makeTaskLeft (trigger : WebhookTrigger) (name : String) (d : Draft) (now : Instant) (b : Backend) :
    ∃ middle, middle = ((enforce d.policy trigger.metadata.ns trigger.metadata.name d.rule).run now b).2 ∧
      (((makeTask trigger name d).run now b).2.store.tasks = middle.store.tasks ∨
        ∃ version, middle.store.get? .task ⟨trigger.metadata.ns, name⟩ = none ∧
          ((makeTask trigger name d).run now b).2.store.tasks = middle.store.tasks.put
            (Collection.firstWrite (k := .task) version now (newTask trigger d name))) := by
  obtain ⟨middle, enforced, -⟩ :=
    enforceRun d.policy trigger.metadata.ns trigger.metadata.name d.rule now b
  refine ⟨middle, (congrArg Prod.snd enforced).symm, ?_⟩
  unfold makeTask
  rw [Procedure.run] at enforced ⊢
  rw [Procedure.runBind, enforced]
  cases admits d.policy b.store (scope trigger.metadata.ns trigger.metadata.name d.rule) with
  | false => exact .inl rfl
  | true =>
    have asked : (Procedure.ask (.create .task (newTask trigger d name))).runWith (Backend.perform now) middle =
      middle.perform now (.create .task (newTask trigger d name)) := rfl
    dsimp only
    rw [Procedure.runBind, asked]
    rcases middle.createTask now (newTask trigger d name) with
      ⟨e, reply, left, -⟩ | ⟨version, reply, vacant, left⟩
    · rw [reply]
      exact .inl left
    · rw [reply]
      exact .inr ⟨version, vacant, left⟩

theorem makeTaskLeaves (replaces : d.policy = .replace)
    (found : ((makeTask trigger name d).run now b).2.store.get? .task key = some t)
    (other : key ≠ ⟨trigger.metadata.ns, name⟩)
    (busy : t.occupies (scope trigger.metadata.ns trigger.metadata.name d.rule) = true) :
    t.stopRequested = true := by
  obtain ⟨middle, enforced, left⟩ := makeTaskLeft trigger name d now b
  have there : middle.store.get? .task key = some t := by
    rcases left with same | ⟨version, -, put⟩
    · exact (Store.sameFound same key).symm.trans found
    · exact (Store.putOther put other).symm.trans found
  rw [enforced, replaces] at there
  exact enforceLeaves _ _ _ there busy

theorem makeTaskSpares (spares : d.policy ≠ .replace) (stored : b.store.get? .task key = some t) :
    ((makeTask trigger name d).run now b).2.store.get? .task key = some t := by
  obtain ⟨middle, enforced, left⟩ := makeTaskLeft trigger name d now b
  rw [enforceSpares spares] at enforced
  subst enforced
  rcases left with same | ⟨version, vacant, put⟩
  · exact (Store.sameFound same key).trans stored
  · refine (Store.putOther put ?_).trans stored
    rintro rfl
    exact absurd (vacant.symm.trans stored) nofun

def Draft.Apart (d e : Draft) : Prop := d.rule.isSome = true ∧ e.rule.isSome = true ∧ d.rule ≠ e.rule

theorem Draft.From.apart {spec : TriggerSpec} {d e : Draft} (first : d.From spec) (second : e.From spec)
    (differ : d.rule ≠ e.rule) : d.Apart e := by
  cases first with
  | template only =>
    cases second with
    | template only' => exact absurd rfl differ
    | rule bare =>
      rw [only] at bare
      cases bare
  | rule bare =>
    cases second with
    | template only =>
      rw [bare] at only
      cases only
    | rule _ _ => exact ⟨rfl, rfl, differ⟩

theorem draftsApart {spec : TriggerSpec} {ds : List Draft} (distinct : (ds.map Draft.rule).Nodup)
    (made : ∀ d ∈ ds, d.From spec) : ds.Pairwise Draft.Apart :=
  (List.pairwise_map.mp distinct).imp_of_mem fun first second differ =>
    (made _ first).apart (made _ second) differ

theorem Draft.Apart.outside {d e : Draft} (apart : d.Apart e)
    (carries : (scope trigger.metadata.ns trigger.metadata.name d.rule).matchesMetadata t.metadata = true) :
    (scope trigger.metadata.ns trigger.metadata.name e.rule).matchesMetadata t.metadata = false := by
  obtain ⟨ruled, ruled', differ⟩ := apart
  obtain ⟨rule, named⟩ := Option.isSome_iff_exists.mp ruled
  obtain ⟨other, named'⟩ := Option.isSome_iff_exists.mp ruled'
  refine Bool.eq_false_iff.mpr fun both => differ ?_
  have label := (scopeIff.mp carries).2.2 rule named
  rw [(scopeIff.mp both).2.2 other named'] at label
  rw [named, named', label]

theorem Draft.From.governed {spec : TriggerSpec} {policy : ConcurrencyPolicy} {rule : Option String}
    (valid : spec.fault? = none) (made : d.From spec) (governed : spec.Governed policy rule) (name : String)
    (carries : (scope trigger.metadata.ns trigger.metadata.name rule).matchesMetadata
      (newTask trigger d name).metadata = true) : d.rule = rule ∧ d.policy = policy := by
  cases made with
  | template only =>
    cases rule with
    | none => exact ⟨rfl, governed.2⟩
    | some r =>
      obtain ⟨listed, inside, -⟩ := governed
      rw [TriggerSpec.rulesOnly valid (List.ne_nil_of_mem inside)] at only
      cases only
  | @rule listed s bare inside =>
    cases rule with
    | none =>
      have template := governed.1
      rw [bare] at template
      cases template
    | some r =>
      obtain ⟨twin, inside', named, policy⟩ := governed
      have label := (scopeIff.mp carries).2.2 r rfl
      rw [newTaskLabels, if_pos ⟨rfl, rfl⟩] at label
      have name : listed.name = r := Option.some.inj label
      rw [← TriggerSpec.ruleOfName valid inside inside' (name.trans named.symm)] at policy
      exact ⟨congrArg some name, policy⟩

namespace Makes
variable {n : Nat} {ds : List Draft} {result : List Made × Option StoreError}

theorem ofDraft (makes : Makes trigger names now n b ds result after) :
    ∀ m ∈ result.1, ∃ d ∈ ds, m.rule = d.rule := by
  induction makes with
  | done | refused => exact fun m inside => nomatch inside
  | skipped _ _ ih =>
    intro m inside
    obtain ⟨d, there, same⟩ := ih m inside
    exact ⟨d, List.mem_cons_of_mem _ there, same⟩
  | made one _ ih =>
    intro m inside
    rcases List.mem_cons.mp inside with rfl | later
    · cases one
      exact ⟨_, List.mem_cons_self, rfl⟩
    · obtain ⟨d, there, same⟩ := ih m later
      exact ⟨d, List.mem_cons_of_mem _ there, same⟩

theorem stands (makes : Makes trigger names now n b ds result after) (apart : ds.Pairwise Draft.Apart) :
    ∀ m ∈ result.1, ∃ d ∈ ds, m.rule = d.rule ∧ ∃ name version,
      m.task = ⟨trigger.metadata.ns, name⟩ ∧ after.store.get? .task m.task =
        some (Collection.firstWrite (k := .task) version now (newTask trigger d name)) := by
  induction makes with
  | done | refused => exact fun m inside => nomatch inside
  | skipped _ _ ih =>
    intro m inside
    obtain ⟨d, there, made⟩ := ih (List.pairwise_cons.mp apart).2 m inside
    exact ⟨d, List.mem_cons_of_mem _ there, made⟩
  | @made k _ _ _ d _ _ _ _ one rest ih =>
    intro m inside
    rcases List.mem_cons.mp inside with rfl | later
    · cases one with
      | @made version _ _ free marked vacant put =>
        refine ⟨d, List.mem_cons_self, rfl, _, version, rfl, ?_⟩
        refine rest.keeps (Store.putSame put) fun e there => ?_
        exact ((List.pairwise_cons.mp apart).1 e there).outside
          (newTaskScoped trigger d (names k))
    · obtain ⟨e, there, made⟩ := ih (List.pairwise_cons.mp apart).2 m later
      exact ⟨e, List.mem_cons_of_mem _ there, made⟩

theorem kept (makes : Makes trigger names now n b ds result after) (stored : b.store.get? .task key = some t) :
    ∃ u, after.store.get? .task key = some u ∧ u.unmarked = t.unmarked := by
  induction makes generalizing t with
  | done => exact ⟨t, stored, rfl⟩
  | skipped one _ ih =>
    cases one with
    | skipped busy marked =>
      obtain ⟨u, found, same⟩ := marked.kept stored
      obtain ⟨v, there, rest⟩ := ih found
      exact ⟨v, there, rest.trans same⟩
  | refused one =>
    cases one with
    | refused marked tasks =>
      obtain ⟨u, found, same⟩ := marked.kept stored
      exact ⟨u, (Store.sameFound tasks key).trans found, same⟩
  | @made k _ _ _ _ _ _ _ _ one _ ih =>
    cases one with
    | made free marked vacant put =>
      obtain ⟨u, found, same⟩ := marked.kept stored
      have other : key ≠ ⟨trigger.metadata.ns, names k⟩ := by
        rintro rfl
        exact absurd (vacant.symm.trans found) nofun
      obtain ⟨v, there, rest⟩ := ih ((Store.putOther put other).trans found)
      exact ⟨v, there, rest.trans same⟩

theorem before (makes : Makes trigger names now n b ds result after) (apart : ds.Pairwise Draft.Apart)
    (others : ∀ e ∈ ds, d.Apart e) (found : after.store.get? .task key = some t)
    (carries : (scope trigger.metadata.ns trigger.metadata.name d.rule).matchesMetadata t.metadata = true) :
    b.store.get? .task key = some t := by
  by_cases mine : key ∈ result.1.map Made.task
  · obtain ⟨m, inside, rfl⟩ := List.mem_map.mp mine
    obtain ⟨e, there, -, name, version, -, made⟩ := makes.stands apart m inside
    cases made.symm.trans found
    have inside : (scope trigger.metadata.ns trigger.metadata.name e.rule).matchesMetadata
      (Collection.firstWrite (k := .task) version now (newTask trigger e name)).metadata = true :=
      newTaskScoped trigger e name
    rw [(others e there).outside carries] at inside
    cases inside
  · have rest := makes.others mine
    rw [found] at rest
    obtain ⟨old, stored, same⟩ := Option.map_eq_some_iff.mp rest.symm
    have outside : ∀ e ∈ ds,
        (scope trigger.metadata.ns trigger.metadata.name e.rule).matchesMetadata old.metadata = false := by
      intro e there
      rw [Task.matchesUnmarked same]
      exact (others e there).outside carries
    rw [stored, ← makes.keeps stored outside, found]

end Makes

namespace Course
variable {n : Nat} {ds : List Draft} {result : List Made × Option StoreError}

theorem spares (course : Course trigger names now n b ds result after)
    (stored : b.store.get? .task key = some t)
    (outside : ∀ d ∈ ds, d.policy = .replace →
      (scope trigger.metadata.ns trigger.metadata.name d.rule).matchesMetadata t.metadata = false) :
    after.store.get? .task key = some t := by
  have one : ∀ {n b d reply middle}, (makeTask trigger (names n) d).run now b = (reply, middle) →
      b.store.get? .task key = some t → (d.policy = .replace →
        (scope trigger.metadata.ns trigger.metadata.name d.rule).matchesMetadata t.metadata = false) →
      middle.store.get? .task key = some t := by
    intro n b d reply middle run stored outside
    have left : ((makeTask trigger (names n) d).run now b).2 = middle := congrArg Prod.snd run
    rw [← left]
    by_cases replaces : d.policy = .replace
    · exact (makeTaskMakes trigger (names n) d now b).keeps stored (outside replaces)
    · exact makeTaskSpares replaces stored
  induction course with
  | done => exact stored
  | skipped run _ ih | made run _ ih =>
    exact ih (one run stored (outside _ List.mem_cons_self))
      fun d inside => outside d (List.mem_cons_of_mem _ inside)
  | refused run => exact one run stored (outside _ List.mem_cons_self)

theorem leaves (course : Course trigger names now n b ds result after)
    (apart : ds.Pairwise Draft.Apart) (inside : d ∈ ds) (replaces : d.policy = .replace) {m : Made}
    (made : m ∈ result.1) (own : m.rule = d.rule) (found : after.store.get? .task key = some t)
    (other : key ≠ m.task)
    (busy : t.occupies (scope trigger.metadata.ns trigger.metadata.name d.rule) = true) :
    t.stopRequested = true := by
  have none : ∀ {n b e ds out failure after}, Course trigger names now n b ds (out, failure) after →
      (e :: ds).Pairwise Draft.Apart → m ∈ out → m.rule ≠ e.rule := by
    intro n b e ds out failure after course apart made same
    obtain ⟨f, there, rule⟩ := course.makes.ofDraft m made
    exact ((List.pairwise_cons.mp apart).1 f there).2.2 (same.symm.trans rule)
  induction course with
  | done | refused => cases made
  | skipped run rest ih =>
    rcases List.mem_cons.mp inside with rfl | later
    · exact absurd own (none rest apart made)
    · exact ih (List.pairwise_cons.mp apart).2 later made found
  | @made k b middle _ e _ _ _ _ run rest ih =>
    obtain ⟨others, apart'⟩ := List.pairwise_cons.mp apart
    rcases List.mem_cons.mp inside with rfl | later
    · have there : middle.store.get? .task key = some t :=
        rest.makes.before apart' others found (Task.occupiesIff.mp busy).1
      have making := makeTaskMakes trigger (names k) d now b
      rcases List.mem_cons.mp made with rfl | late
      · rw [run] at making
        cases making
        rw [show middle = ((makeTask trigger (names k) d).run now b).2 by rw [run]] at there
        exact makeTaskLeaves replaces there other busy
      · exact absurd own (none rest apart late)
    · refine ih apart' later ?_ found
      refine (List.mem_cons.mp made).resolve_left ?_
      rintro rfl
      have making := makeTaskMakes trigger (names k) e now b
      rw [run] at making
      cases making
      exact (others d later).2.2 own

end Course

/-- A request that makes a task in a scope under `replace` lets every other task of that scope which
is active go on to its end: it is asked to stop, and its next reconcile completes it and removes
the workload that it records. The new task is not asked, and a task that is in no scope in which
the request replaces one is left alone. -/
theorem replaceLeavesOne {registry : Registry} {sources : SecretSources} {engine later : FilterEngine}
    {request : WebhookRequest} {plan : Plan} {rule : Option String} {n : Task} (served : registry.Sound)
    (judged : judge registry sources engine request = (.ok plan, later))
    (governed : plan.trigger.spec.Governed .replace rule) (absent : b.store.get? .task key = none)
    (handled : after = ((handle registry sources names now engine request).1.run now b).2)
    (created : after.store.get? .task key = some n)
    (own : (scope plan.trigger.metadata.ns plan.trigger.metadata.name rule).matchesMetadata
      n.metadata = true) :
    n.metadata.annotations = .empty ∧
    (∀ other t, after.store.get? .task other = some t → other ≠ key →
      t.occupies (scope plan.trigger.metadata.ns plan.trigger.metadata.name rule) = true →
      t.stopRequested = true) ∧
    (∀ other t, b.store.get? .task other = some t →
      (∃ u, after.store.get? .task other = some u ∧ u.unmarked = t.unmarked) ∧
      ((∀ d ∈ plan.drafts, d.policy = .replace →
          (scope plan.trigger.metadata.ns plan.trigger.metadata.name d.rule).matchesMetadata
            t.metadata = false) →
        after.store.get? .task other = some t)) ∧
    (∀ log last, Chronicle Backend.Idles after log last → ∀ other t,
      after.store.get? .task other = some t → other ≠ key →
      t.occupies (scope plan.trigger.metadata.ns plan.trigger.metadata.name rule) = true →
      other ∈ log.map Round.key →
      ∃ u, last.store.get? .task other = some u ∧ u.wasStopped = true ∧
        Reconcile.recorded? u = Reconcile.recorded? t ∧ Released log last u ∧
        ∀ attempt, Reconcile.recorded? t = some (other.run attempt) →
          last.workloads.records.get? (other.run attempt) = none) := by
  obtain ⟨-, drawn⟩ := judgedFrom judged
  obtain ⟨home, body, cs, -, found, -, -⟩ := judgedAccepted judged
  have apart := draftsApart (judgedApart served judged) drawn
  have carried : (handle registry sources names now engine request).1 =
      plan.carryOut (fun i => plan.trigger.metadata.name ++ "-" ++ names i) now := by
    unfold handle
    rw [judged]
  obtain ⟨made, failure, left, course, -, tasks, -⟩ :=
    carryOutCourse plan (fun i => plan.trigger.metadata.name ++ "-" ++ names i) now b
  rw [← carried, ← handled] at tasks
  have same : ∀ key, after.store.get? .task key = left.store.get? .task key := Store.sameFound tasks
  have makes := course.makes
  have listed : key ∈ made.map Made.task := by
    refine Decidable.byContradiction fun mine => ?_
    have rest := makes.others mine
    rw [← same, created, absent] at rest
    cases rest
  obtain ⟨m, inside, rfl⟩ := List.mem_map.mp listed
  obtain ⟨d, there, rule', name, version, -, stands⟩ := makes.stands apart m inside
  cases stands.symm.trans ((same _).symm.trans created)
  obtain ⟨rfl, replaces⟩ := Draft.From.governed (served.valid home plan.trigger found)
    (drawn d there) governed name own
  have asked : ∀ other t, after.store.get? .task other = some t → other ≠ m.task →
      t.occupies (scope plan.trigger.metadata.ns plan.trigger.metadata.name d.rule) = true →
      t.stopRequested = true := by
    intro other t stored
    exact course.leaves apart there replaces inside rule' ((same _).symm.trans stored)
  refine ⟨rfl, asked, fun other t stored => ⟨?_, fun outside => ?_⟩, ?_⟩
  · rw [same]
    exact makes.kept stored
  · rw [same]
    exact course.spares stored outside
  · intro log last run other t stored apart busy seen
    have active := (Task.occupiesIff.mp busy).2
    rcases run.stopped stored active (asked other t stored apart busy) with
      ⟨unseen, -⟩ | ⟨-, u, there, stopped, recorded, released⟩
    · exact absurd seen unseen
    · have home : u.key = other := last.store.tasks.keyed there
      subst home
      exact ⟨u, there, stopped, recorded, released, fun attempt own => released.own (recorded.trans own)⟩

def buildAndNotify : WebhookTrigger :=
  ⟨Metadata.ofKey ⟨"ns", "hook"⟩, ⟨none, "", .allow, none,
    [ruleNamed "build" "" (some .replace), ruleNamed "notify" "" none]⟩, .fresh⟩

def builds : Registry := (Registry.empty.register buildAndNotify).2

def buildTask (rule name : String) : Task :=
  newTask buildAndNotify ⟨some rule, .allow, .empty, (Task.bare ⟨"ns", name⟩ "agent").spec⟩ name

def building : Backend :=
  let agent := (Backend.empty.perform default (.create .agent (Agent.bare ⟨"ns", "agent"⟩ none))).2
  let first := (agent.perform default (.create .task (buildTask "build" "old"))).2
  let both := (first.perform default (.create .task (buildTask "notify" "note"))).2
  Round.after ⟨.bare, default, ⟨"ns", "old"⟩, both⟩

def rebuilt : Backend :=
  ((handle builds ⟨none, .empty⟩ tally default .empty untagged).1.run default building).2

theorem oldBuildReplaced : ∃ n old note stopped,
    rebuilt.store.get? .task (taskKey buildAndNotify tally 0) = some n ∧
    n.metadata.annotations = .empty ∧
    rebuilt.store.get? .task ⟨"ns", "old"⟩ = some old ∧ old.phase = .running ∧ old.stopRequested = true ∧
    building.store.get? .task ⟨"ns", "note"⟩ = some note ∧
    rebuilt.store.get? .task ⟨"ns", "note"⟩ = some note ∧
    (Round.after ⟨.bare, default, ⟨"ns", "old"⟩, rebuilt⟩).store.get? .task ⟨"ns", "old"⟩ = some stopped ∧
    stopped.wasStopped = true ∧ building.workloads.Live (Key.run ⟨"ns", "old"⟩ 1) ∧
    (Round.after ⟨.bare, default, ⟨"ns", "old"⟩, rebuilt⟩).workloads.records.get?
      (Key.run ⟨"ns", "old"⟩ 1) = none := by
  have ok : (judge builds ⟨none, .empty⟩ .empty untagged).1.isOk = true := by decide +kernel
  obtain ⟨plan, judged⟩ := okExists ok
  have same : plan.trigger = buildAndNotify := by
    obtain ⟨home, -, -, path, found, -, -⟩ := judgedAccepted (Prod.ext judged rfl)
    rw [show keyOfPath? untagged.path = some ⟨"ns", "hook"⟩ by decide +kernel] at path
    cases path
    rw [show builds.get? ⟨"ns", "hook"⟩ = some buildAndNotify by decide +kernel] at found
    exact (Option.some.inj found).symm
  have outside : ∀ d ∈ plan.drafts, d.policy = .replace → d.rule = some "build" := by
    intro d inside replaces
    have drawn := (judgedFrom (Prod.ext judged rfl)).2 d inside
    rw [same] at drawn
    cases drawn with
    | template only => cases only
    | rule _ listed =>
      have each : ∀ rule ∈ buildAndNotify.spec.rules,
          buildAndNotify.spec.policyFor rule = .replace → rule.name = "build" := by decide +kernel
      exact congrArg some (each _ listed replaces)
  have made : (rebuilt.store.get? .task (taskKey buildAndNotify tally 0)).any (fun n =>
      (scope "ns" "hook" (some "build")).matchesMetadata n.metadata) = true := by decide +kernel
  have ran : (rebuilt.store.get? .task ⟨"ns", "old"⟩).any (fun t => t.phase == .running &&
      (t.occupies (scope "ns" "hook" (some "build")) &&
        Reconcile.recorded? t == some (Key.run ⟨"ns", "old"⟩ 1))) = true := by decide +kernel
  have noted : (building.store.get? .task ⟨"ns", "note"⟩).any (fun t =>
      !(scope "ns" "hook" (some "build")).matchesMetadata t.metadata) = true := by decide +kernel
  obtain ⟨n, created, own⟩ := (Option.any_eq_true _ _).mp made
  obtain ⟨old, running, shown⟩ := (Option.any_eq_true _ _).mp ran
  obtain ⟨note, stored, apart⟩ := (Option.any_eq_true _ _).mp noted
  simp only [Bool.and_eq_true, beq_iff_eq] at shown
  obtain ⟨phase, busy, recorded⟩ := shown
  have absent : building.store.get? .task (taskKey buildAndNotify tally 0) = none := by decide +kernel
  have governed : plan.trigger.spec.Governed .replace (some "build") := by
    rw [same]
    exact ⟨_, List.mem_cons_self, rfl, rfl⟩
  have handled : ((handle builds ⟨none, .empty⟩ tally default .empty untagged).1.run default building).2 =
    rebuilt := rfl
  have replaced := replaceLeavesOne (Registry.emptySound.register buildAndNotify) (Prod.ext judged rfl) governed
    absent handled created (by rw [same]; exact own)
  rw [same] at replaced
  obtain ⟨bare, asked, others, ended⟩ := replaced
  have differ : (⟨"ns", "old"⟩ : Key) ≠ taskKey buildAndNotify tally 0 := by decide +kernel
  obtain ⟨stopped, there, ends, -, -, gone⟩ := ended _ _ (.round .start .bare default ⟨"ns", "old"⟩) _ old running
    differ busy (by simp)
  refine ⟨n, old, note, stopped, created, bare, running, phase, asked _ old running differ busy, stored,
    (others _ note stored).2 fun d inside replaces => ?_, there, ends, ?_, gone 1 recorded⟩
  · rw [outside d inside replaces]
    exact Bool.not_eq_true' _ |>.mp apart
  · rw [Workloads.liveIff]
    decide +kernel

/-- The running task of the rule that makes room has the next run of another task recorded. -/
def borrowed : Backend :=
  let old := buildTask "build" "old"
  let running : Task := { old with status := { old.status with
    phase := some .running
    workloadName := some (Key.run ⟨"ns", "note"⟩ 1).name } }
  let agent := (Backend.empty.perform default (.create .agent (Agent.bare ⟨"ns", "agent"⟩ none))).2
  let first := (agent.perform default (.create .task running)).2
  (first.perform default (.create .task (buildTask "notify" "note"))).2

def borrowedRebuilt : Backend :=
  ((handle builds ⟨none, .empty⟩ tally default .empty untagged).1.run default borrowed).2

def borrowedReconciled : Backend :=
  Round.after ⟨.bare, default, ⟨"ns", "note"⟩, Round.after ⟨.bare, default, ⟨"ns", "old"⟩, borrowedRebuilt⟩⟩

/-- The workload that a stopped task recorded is there again, once another task has it for its run. -/
theorem borrowedRunReturns :
    buildAndNotify.spec.Governed .replace (some "build") ∧
    borrowed.store.get? .task (taskKey buildAndNotify tally 0) = none ∧
    (borrowedRebuilt.store.get? .task (taskKey buildAndNotify tally 0)).any (fun n =>
      (scope "ns" "hook" (some "build")).matchesMetadata n.metadata) = true ∧
    (borrowedRebuilt.store.get? .task ⟨"ns", "old"⟩).any (fun t =>
      t.occupies (scope "ns" "hook" (some "build")) && t.stopRequested) = true ∧
    (borrowedReconciled.store.get? .task ⟨"ns", "old"⟩).any (fun t =>
      t.wasStopped && Reconcile.recorded? t == some (Key.run ⟨"ns", "note"⟩ 1)) = true ∧
    Key.run ⟨"ns", "note"⟩ 1 ∈ borrowedReconciled.workloads.running := by
  refine ⟨⟨_, List.mem_cons_self, rfl, rfl⟩, ?_⟩
  decide +kernel

end Webhook

end Turnstile
