import Turnstile.Proofs.Webhook.Adding
import Turnstile.Proofs.Webhook.Exclusion
/-! The books balance. However requests, reconciles, syncs and the writes of others follow each
other, a trigger's status counts the tasks that requests made for it and names those that are
active. Right after a sync it names no other. -/
namespace Turnstile
open Webhook Procedure

namespace Webhook
variable {key : Key} {registry : Registry} {request : WebhookRequest} {trigger : WebhookTrigger}
  {b middle after : Backend} {made : List Made} {now : Instant}

def ruleOf? (trigger : WebhookTrigger) (t : Task) : Option String :=
  if trigger.spec.taskTemplate.isSome then none else t.metadata.labels.get? ruleLabel

def born (key : Key) (registry : Registry) (request : WebhookRequest) (b after : Backend) : List Made :=
  if keyOfPath? request.path = some key then
    match registry.get? key with
    | none => []
    | some trigger =>
      (after.store.tasks.objects.values.filter fun t => (b.store.get? .task t.key).isNone).map
        fun t => ⟨ruleOf? trigger t, t.key⟩
  else []

theorem bornNone (tasks : after.store.tasks = b.store.tasks) : born key registry request b after = [] := by
  unfold born
  split
  · split
    · rfl
    · rw [List.map_eq_nil_iff, List.filter_eq_nil_iff]
      intro t inside
      rw [after.store.stored, Store.sameFound tasks] at inside
      simp [inside]
  · rfl

theorem Adds.ruled (adds : Adds trigger b made after)
    (ruled : ∀ m ∈ made, m.rule.isSome = trigger.spec.taskTemplate.isNone) {m : Made} (inside : m ∈ made)
    {t : Task} (stored : after.store.get? .task m.task = some t) : ruleOf? trigger t = m.rule := by
  obtain ⟨u, found, carries⟩ := adds.stored m inside
  cases found.symm.trans stored
  have labelled := (scopeIff.mp carries).2.2
  have own := ruled m inside
  unfold ruleOf?
  cases rule : m.rule with
  | none =>
    rw [rule] at own
    rw [if_pos]
    cases template : trigger.spec.taskTemplate with
    | none =>
      rw [template] at own
      cases own
    | some _ => rfl
  | some name =>
    rw [rule] at own
    rw [if_neg]
    · exact labelled name rule
    · cases template : trigger.spec.taskTemplate with
      | none => exact Bool.false_ne_true
      | some _ =>
        rw [template] at own
        cases own

theorem Adds.brought (adds : Adds trigger b made middle)
    (ruled : ∀ m ∈ made, m.rule.isSome = trigger.spec.taskTemplate.isNone)
    (tasks : after.store.tasks = middle.store.tasks) (path : keyOfPath? request.path = some key)
    (served : registry.get? key = some trigger) : (born key registry request b after).Perm made := by
  have listed : born key registry request b after =
      (after.store.tasks.objects.values.filter fun t => (b.store.get? .task t.key).isNone).map
        fun t => ⟨ruleOf? trigger t, t.key⟩ := by
    unfold born
    rw [if_pos path, served]
  have distinct : (born key registry request b after).Nodup := by
    rw [listed]
    refine List.Nodup.of_map Made.task ?_
    rw [List.map_map]
    exact (List.filter_sublist.map Task.key).nodup after.store.tasks.keysDistinct
  -- neither list repeats a task, so having the same members makes them permutations
  refine (List.perm_ext_iff_of_nodup distinct (List.Nodup.of_map _ adds.distinct)).mpr fun m => ?_
  rw [listed, List.mem_map]
  constructor
  · rintro ⟨t, inside, rfl⟩
    obtain ⟨there, new⟩ := List.mem_filter.mp inside
    rw [after.store.stored, Store.sameFound tasks] at there
    have own : t.key ∈ made.map Made.task := by
      by_contra apart
      rw [(adds.absent apart).mpr (Option.isNone_iff_eq_none.mp new)] at there
      cases there
    obtain ⟨m, inside, same⟩ := List.mem_map.mp own
    have rule := adds.ruled ruled inside (same ▸ there)
    rw [rule, ← same]
    exact inside
  · intro inside
    obtain ⟨t, stored, -⟩ := adds.stored m inside
    have own : t.key = m.task := middle.store.tasks.keyed stored
    refine ⟨t, List.mem_filter.mpr ⟨?_, ?_⟩, ?_⟩
    · rw [after.store.stored, Store.sameFound tasks, own]
      exact stored
    · rw [own, adds.new m inside]
      rfl
    · rw [adds.ruled ruled inside stored, own]

theorem handleAttempt {sources : SecretSources} {names : Nat → String} {engine : FilterEngine}
    {delivery : Delivery}
    (attempt : Attempt Call.OfTasks now (handle registry sources names now engine request).1 b delivery after) :
    after = b ∨ ∃ home trigger made middle, keyOfPath? request.path = some home ∧
      registry.get? home = some trigger ∧ Adds trigger b made middle ∧
      (∀ m ∈ made, m.rule.isSome = trigger.spec.taskTemplate.isNone) ∧
      ((made = [] ∧ after = middle) ∨ middle.Rebooked trigger.key (countAll now made) after) := by
  unfold handle at attempt
  split at attempt
  · cases attempt
    exact .inl rfl
  · rename_i plan later judged
    obtain ⟨home, body, cs, path, served, -⟩ := judgedAccepted judged
    obtain ⟨made, middle, adds, drafted, counted⟩ := carryOutAttempt attempt
    refine .inr ⟨home, plan.trigger, made, middle, path, served, adds, fun m inside => ?_, counted⟩
    obtain ⟨d, listed, same⟩ := drafted m inside
    rw [same]
    cases (judgedFrom judged).2 d listed with
    | template only => rw [only]; rfl
    | rule bare => rw [bare]; rfl

end Webhook

/-- The status of a stored, valid trigger keeps the books of what was made for it, the newest
first, and names each active task as what was last made under its key. -/
structure Webhook.Accounts (key : Key) (made : List Made) (b : Backend) : Prop where
  home : ∀ m ∈ made, m.task.ns = key.ns
  books : ∃ t, b.store.get? .trigger key = some t ∧ t.spec.fault? = none ∧ Booked made t.status ∧
    t.status.totalTriggered = UInt64.ofNat made.length ∧
    ∀ other task, b.store.get? .task other = some task →
      task.occupies (scope key.ns key.name none) = true →
      ∃ m, made.find? (·.task == other) = some m ∧ Named t.status m

namespace Webhook.Accounts
variable {key : Key} {registry : Registry} {b middle after : Backend} {made more : List Made} {now : Instant}

theorem kept (accounts : Accounts key made b) (spares : b.Spares (scope key.ns key.name none) after)
    (trigger : ∀ t, b.store.get? .trigger key = some t → t.spec.fault? = none →
      ∃ u, after.store.get? .trigger key = some u ∧ u.status = t.status ∧ u.spec.fault? = none) :
    Accounts key made after := by
  obtain ⟨t, stored, valid, booked, total, active⟩ := accounts.books
  obtain ⟨u, there, same, still⟩ := trigger t stored valid
  refine ⟨accounts.home, u, there, still, same ▸ booked, same ▸ total, fun other task found busy => ?_⟩
  obtain ⟨old, before, was⟩ := spares other task found busy
  rw [same]
  exact active other old before was

theorem aside (accounts : Accounts key made b) (spares : b.Spares (scope key.ns key.name none) after)
    (triggers : after.store.get? .trigger key = b.store.get? .trigger key) : Accounts key made after :=
  accounts.kept spares fun t stored valid => ⟨t, triggers.trans stored, rfl, valid⟩

theorem memActive {name : String} :
    name ∈ TriggerController.activeNames (b.store.list .task (scope key.ns key.name none)) ↔
      ∃ task, b.store.get? .task ⟨key.ns, name⟩ = some task ∧
        task.occupies (scope key.ns key.name none) = true := by
  unfold TriggerController.activeNames
  rw [List.mem_map]
  constructor
  · rintro ⟨task, inside, rfl⟩
    obtain ⟨stored, busy⟩ := Store.memOccupants.mp inside
    have ns : task.metadata.ns = key.ns := (scopeIff.mp (Task.occupiesIff.mp busy).1).1
    have own : task.key = ⟨key.ns, task.metadata.name⟩ := by
      rw [← ns]
      rfl
    exact ⟨task, own ▸ stored, busy⟩
  · rintro ⟨task, stored, busy⟩
    have own : task.key = ⟨key.ns, name⟩ := b.store.tasks.keyed stored
    exact ⟨task, Store.memOccupants.mpr ⟨own ▸ stored, busy⟩, congrArg Key.name own⟩

theorem pruned (accounts : Accounts key made b) {url : String}
    (rebooked : b.Rebooked key (TriggerController.desiredStatus · url
      (TriggerController.activeNames (b.store.list .task (scope key.ns key.name none)))) after) :
    Accounts key made after := by
  obtain ⟨t, stored, valid, booked, total, active⟩ := accounts.books
  obtain ⟨u, there, spec, status⟩ := rebooked.own t stored
  refine ⟨accounts.home, u, there, spec ▸ valid, ?_, ?_, fun other task found busy => ?_⟩
  · rw [status]
    exact TriggerController.desiredBooked booked url _
  · rw [status]
    exact total
  · rw [Store.sameFound rebooked.tasks] at found
    obtain ⟨m, last, named⟩ := active other task found busy
    have own : m.task = other := by simpa using List.find?_some last
    have ns := accounts.home m (List.mem_of_find?_eq_some last)
    refine ⟨m, last, ?_⟩
    rw [status]
    refine TriggerController.desiredNamed named url (memActive.mpr ⟨task, ?_, busy⟩)
    rw [← ns, own]
    exact found

theorem synced (accounts : Accounts key made b) (base : String) (registry : Registry) (now : Instant)
    (other : Key) : Accounts key made ((TriggerController.sync base registry other).run now b).2 := by
  by_cases own : other = key
  · subst own
    obtain ⟨t, stored, valid, -⟩ := accounts.books
    refine accounts.pruned (TriggerController.syncRebooks base registry now fun u found => ?_)
    cases stored.symm.trans found
    exact valid
  · refine accounts.aside (Backend.sparesSame ?_) ?_
    · exact Procedure.onTriggersRun (TriggerController.syncOnTriggers base registry other) now b
    · exact TriggerController.syncSpares base registry now fun same => own same.symm

theorem syncedAll (accounts : Accounts key made b) (base : String) (registry : Registry) (now : Instant)
    (keys : List Key) : Accounts key made ((TriggerController.syncAll base registry keys).run now b).2 := by
  induction keys generalizing registry b with
  | nil => exact accounts
  | cons other rest ih =>
    unfold TriggerController.syncAll
    rw [Procedure.run, Procedure.runBind]
    exact ih (accounts.synced base registry now other) _

theorem resynced (accounts : Accounts key made b) (base : String) (registry : Registry) (now : Instant) :
    Accounts key made ((TriggerController.resync base registry).run now b).2 := by
  have listed : (Procedure.ask (.list .trigger .all)).runWith (Backend.perform now) b =
      (.ok (b.store.list .trigger .all), b) := rfl
  unfold TriggerController.resync
  rw [Procedure.run, Procedure.runBind, listed]
  exact accounts.syncedAll base _ now _

theorem counted {trigger : WebhookTrigger} (accounts : Accounts key made b) (own : trigger.key = key)
    (adds : Adds trigger b more middle) (rebooked : middle.Rebooked key (countAll now more) after)
    {out : List Made} (same : out.Perm more) : Accounts key (out ++ made) after := by
  obtain ⟨t, stored, valid, booked, total, active⟩ := accounts.books
  have kept : middle.store.get? .trigger key = some t := by
    change middle.store.triggers.objects.get? key = some t
    rw [adds.triggers]
    exact stored
  obtain ⟨u, there, spec, status⟩ := rebooked.own t kept
  refine ⟨fun m inside => ?_, u, there, spec ▸ valid, ?_, ?_, fun other task found busy => ?_⟩
  · rcases List.mem_append.mp inside with new | old
    · obtain ⟨task, made, carries⟩ := adds.stored m (same.mem_iff.mp new)
      have key' : task.key = m.task := middle.store.tasks.keyed made
      rw [← key', ← own]
      exact (scopeIff.mp carries).1
    · exact accounts.home m old
  · rw [status]
    exact (booked.all now more).perm (List.perm_append_comm.trans (same.symm.append_right made))
  · rw [status, countAllTotal, total, ← UInt64.ofNat_add, List.length_append, same.length_eq, Nat.add_comm]
  · rw [Store.sameFound rebooked.tasks] at found
    rw [List.find?_append, status]
    -- the newest entry under a key is this request's, or else the task was there before it
    cases last : out.find? (·.task == other) with
    | some m =>
      exact ⟨m, rfl, countAllNamed now more (.inr (same.mem_iff.mp (List.mem_of_find?_eq_some last)))⟩
    | none =>
      have apart : other ∉ more.map Made.task := by
        intro inside
        obtain ⟨m, listed, rfl⟩ := List.mem_map.mp inside
        exact List.find?_eq_none.mp last m (same.mem_iff.mpr listed) (by simp)
      obtain ⟨old, was, unmarked⟩ := adds.origin apart found
      obtain ⟨m, first, named⟩ := active other old was (by rwa [Task.occupiesUnmarked unmarked])
      exact ⟨m, first, countAllNamed now more (.inl named)⟩

theorem elsewhere {trigger : WebhookTrigger} (accounts : Accounts key made b) (other : trigger.key ≠ key)
    (adds : Adds trigger b more middle) (tasks : after.store.tasks = middle.store.tasks)
    (triggers : after.store.get? .trigger key = middle.store.get? .trigger key) : Accounts key made after := by
  refine accounts.aside (fun name task found busy => ?_) ?_
  · rw [Store.sameFound tasks] at found
    have apart : name ∉ more.map Made.task := by
      intro inside
      obtain ⟨m, listed, rfl⟩ := List.mem_map.mp inside
      obtain ⟨u, stored, carries⟩ := adds.stored m listed
      cases stored.symm.trans found
      obtain ⟨ns, label, -⟩ := scopeIff.mp carries
      obtain ⟨ns', label', -⟩ := scopeIff.mp (Task.occupiesIff.mp busy).1
      -- a task in the scopes of both triggers would have both their names on one label
      refine other (?_ : Key.mk trigger.metadata.ns trigger.metadata.name = key)
      rw [← ns, ns', Option.some.inj (label.symm.trans label')]
    obtain ⟨old, was, unmarked⟩ := adds.origin apart found
    exact ⟨old, was, by rwa [Task.occupiesUnmarked unmarked]⟩
  · refine triggers.trans ?_
    change middle.store.triggers.objects.get? key = _
    rw [adds.triggers]
    rfl

theorem delivered (accounts : Accounts key made b) (sound : registry.Sound) {sources : SecretSources}
    {names : Nat → String} {engine : FilterEngine} {request : WebhookRequest} {delivery : Delivery}
    (attempt : Attempt Call.OfTasks now (handle registry sources names now engine request).1 b delivery after) :
    Accounts key (born key registry request b after ++ made) after := by
  rcases handleAttempt attempt with rfl | ⟨home, trigger, more, middle, path, served, adds, ruled, counted⟩
  · rw [bornNone rfl]
    exact accounts
  · have own : trigger.key = home := sound.keyed home trigger served
    have tasks : after.store.tasks = middle.store.tasks := by
      rcases counted with ⟨-, rfl⟩ | rebooked
      · rfl
      · exact rebooked.tasks
    by_cases mine : home = key
    · subst mine
      have same : (born home registry request b after).Perm more := adds.brought ruled tasks path served
      rcases counted with ⟨rfl, rfl⟩ | rebooked
      · rw [List.perm_nil.mp same]
        refine accounts.aside (fun other task found busy => ?_) ?_
        · obtain ⟨old, was, unmarked⟩ := adds.origin List.not_mem_nil found
          exact ⟨old, was, by rwa [Task.occupiesUnmarked unmarked]⟩
        · change after.store.triggers.objects.get? home = _
          rw [adds.triggers]
          rfl
      · rw [own] at rebooked
        exact accounts.counted own adds rebooked same
    · have none : born key registry request b after = [] := by
        unfold born
        rw [if_neg]
        rw [path]
        exact fun same => mine (Option.some.inj same)
      rw [none]
      refine accounts.elsewhere (own ▸ mine) adds tasks ?_
      rcases counted with ⟨-, rfl⟩ | rebooked
      · rfl
      · exact rebooked.others key fun same => mine (own.symm.trans same.symm)

end Webhook.Accounts
end Turnstile
