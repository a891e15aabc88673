import Turnstile.Proofs.Controller.Following
import Turnstile.Proofs.Webhook.Scope
/-! What serving a trigger writes. The status of a valid trigger is made right where it is not, which is one
change and leaves nothing to write; to serve the trigger again registers it with that status. -/
namespace Turnstile
open TriggerController

namespace Registry

theorem followTwice (r : Registry) (key : Key) (found : Option WebhookTrigger) :
    (r.follow key found).follow key found = r.follow key found := by
  cases found with
  | none =>
    change (⟨(r.triggers.erase key).erase key⟩ : Registry) = ⟨r.triggers.erase key⟩
    rw [SortedMap.eraseAbsent (SortedMap.getEraseSame _ _)]
  | some t =>
    change (Registry.register _ t).2 = (r.register t).2
    cases fault : t.spec.fault? with
    | some e =>
      rw [show r.follow key (some t) = _ from congrArg Prod.snd (registerInvalid (r := r) fault),
        registerInvalid fault, registerInvalid fault]
      dsimp only
      rw [SortedMap.eraseAbsent (SortedMap.getEraseSame _ _)]
    | none =>
      rw [show r.follow key (some t) = _ from congrArg Prod.snd (registerValid (r := r) fault),
        registerValid fault, registerValid fault]
      dsimp only
      rw [SortedMap.insertFound (SortedMap.getInsertSame _ _ _)]

end Registry

def TriggerStatus.listed (s : TriggerStatus) : List String :=
  s.activeTasks ++ s.ruleStatuses.flatMap RuleStatus.activeResources

namespace WebhookTrigger
variable {base : String} {tasks : Collection .task} {t : WebhookTrigger}

def withStatus (t : WebhookTrigger) (version : UInt64) (status : TriggerStatus) : WebhookTrigger :=
  { t with metadata := { t.metadata with resourceVersion := version }, status := status }

def desired (base : String) (tasks : Collection .task) (t : WebhookTrigger) : TriggerStatus :=
  desiredStatus t.status (Webhook.url base t.key)
    (activeNames (tasks.list (Webhook.scope t.key.ns t.key.name none)))

def unnoted (t : WebhookTrigger) : WebhookTrigger := t.withStatus 0 .fresh

def unsettled (base : String) (tasks : Collection .task) (t : WebhookTrigger) : Bool :=
  t.spec.isValid && decide (t.desired base tasks ≠ t.status)

theorem desiredAgain (s : TriggerStatus) (url : String) (active : List String) :
    desiredStatus (desiredStatus s url active) url active = desiredStatus s url active := by
  unfold desiredStatus
  simp only [List.filter_filter, Bool.and_self, List.map_map, Function.comp_def]

theorem desiredSettles (base : String) (tasks : Collection .task) (t : WebhookTrigger) (version : UInt64) :
    (t.withStatus version (t.desired base tasks)).unsettled base tasks = false := by
  have same : (t.withStatus version (t.desired base tasks)).desired base tasks = t.desired base tasks :=
    desiredAgain _ _ _
  unfold unsettled
  rw [same, Bool.and_eq_false_iff]
  exact .inr (decide_eq_false fun differs => differs rfl)

theorem activeNamed {key : Key} {name : String}
    (inside : (activeNames (tasks.list (Webhook.scope key.ns key.name none))).contains name = true) :
    ∃ task, tasks.objects.get? ⟨key.ns, name⟩ = some task ∧ task.isActive = true ∧ owner? task = some key := by
  rw [List.contains_iff_mem] at inside
  obtain ⟨task, active, rfl⟩ := List.mem_map.mp inside
  obtain ⟨listed, active⟩ := List.mem_filter.mp active
  obtain ⟨inside, selected⟩ := List.mem_filter.mp listed
  obtain ⟨ns, label, -⟩ : task.metadata.ns = key.ns ∧
    task.metadata.labels.get? Webhook.triggerLabel = some key.name ∧ _ := Webhook.scopeIff.mp selected
  obtain ⟨place, stored⟩ := SortedMap.memValues.mp inside
  have home : place = ⟨key.ns, task.metadata.name⟩ := by
    rw [← tasks.keyed stored, ← ns]
    rfl
  subst home
  refine ⟨task, stored, active, ?_⟩
  unfold owner?
  rw [label, ns]
  rfl

theorem settledServes (settled : t.unsettled base tasks = false) (valid : t.spec.isValid = true) :
    t.status.webhookUrl = some (Webhook.url base t.key) ∧ ∀ name ∈ t.status.listed,
      ∃ task, tasks.objects.get? ⟨t.key.ns, name⟩ = some task ∧ task.isActive = true ∧ owner? task = some t.key := by
  unfold unsettled at settled
  rw [valid, Bool.true_and, decide_eq_false_iff_not, ne_eq, Classical.not_not] at settled
  unfold desired desiredStatus at settled
  refine ⟨(congrArg TriggerStatus.webhookUrl settled).symm, fun name inside => activeNamed ?_⟩
  have own := congrArg TriggerStatus.activeTasks settled
  have ruled := congrArg TriggerStatus.ruleStatuses settled
  dsimp only at own ruled
  rcases List.mem_append.mp inside with among | among
  · exact List.filter_eq_self.mp own name among
  · obtain ⟨rule, member, among⟩ := List.mem_flatMap.mp among
    have same := List.map_inj_left.mp (ruled.trans (List.map_id _).symm) rule member
    exact List.filter_eq_self.mp (congrArg RuleStatus.activeResources same) name among

end WebhookTrigger

namespace Backend
variable {base : String} {b : Backend} {key other : Key}

def published (base : String) (b : Backend) (key : Key) : Backend :=
  match b.store.get? .trigger key with
  | none => b
  | some t =>
    if t.unsettled base b.store.tasks then
      { b with store := (b.store.updateStatus .trigger { t with status := t.desired base b.store.tasks }).2 }
    else b

def unsettled (base : String) (b : Backend) : Nat :=
  b.store.triggers.objects.values.countP (WebhookTrigger.unsettled base b.store.tasks)

def SettledAt (base : String) (b : Backend) (key : Key) : Prop :=
  ∀ t, b.store.get? .trigger key = some t → t.unsettled base b.store.tasks = false

inductive Publishes (base : String) (b : Backend) (key : Key) : Backend → Prop where
  | idle (settled : b.SettledAt base key) : Publishes base b key b
  | wrote {t : WebhookTrigger} {after : Backend} (version : UInt64)
      (stored : b.store.get? .trigger t.key = some t) (own : t.key = key)
      (due : t.unsettled base b.store.tasks = true)
      (triggers : after.store.triggers = b.store.triggers.put (t.withStatus version (t.desired base b.store.tasks)))
      (tasks : after.store.tasks = b.store.tasks) : Publishes base b key after

theorem publishes (base : String) (b : Backend) (key : Key) : b.Publishes base key (b.published base key) := by
  unfold published
  cases found : b.store.get? .trigger key with
  | none => exact .idle fun t there => nomatch found.symm.trans there
  | some t =>
    have own : t.key = key := b.store.triggers.keyed found
    subst own
    dsimp only
    cases due : t.unsettled base b.store.tasks with
    | false =>
      refine .idle fun u there => ?_
      cases found.symm.trans there
      exact due
    | true =>
      refine .wrote (b.store.version + 1) found rfl due ?_ rfl
      have written := Collection.replaceAgreed (c := b.store.triggers)
        (o := { t with status := t.desired base b.store.tasks }) (b.store.version + 1) 0
        Kind.trigger.takeStatus found (.inr rfl)
      have object : Collection.laterWrite (b.store.version + 1) 0 t
          (Kind.trigger.takeStatus t { t with status := t.desired base b.store.tasks }) =
          t.withStatus (b.store.version + 1) (t.desired base b.store.tasks) := by
        simp [Collection.laterWrite, Kind.withMetadata, Kind.metadata, Kind.takeStatus, WebhookTrigger.withStatus]
      rw [object] at written
      exact congrArg Prod.snd written

theorem publishedIdle (settled : b.SettledAt base key) : b.published base key = b := by
  unfold published
  cases found : b.store.get? .trigger key with
  | none => rfl
  | some t =>
    dsimp only
    rw [settled t found]
    rfl

namespace Publishes
variable {after : Backend}

theorem tasks (done : b.Publishes base key after) : after.store.tasks = b.store.tasks := by
  cases done with
  | idle => rfl
  | wrote _ _ _ _ _ tasks => exact tasks

theorem counted (done : b.Publishes base key after) :
    ∃ n, after.store.triggers.events.size = b.store.triggers.events.size + n ∧
      b.unsettled base = after.unsettled base + n := by
  cases done with
  | idle => exact ⟨0, rfl, rfl⟩
  | @wrote t _ version stored own due triggers tasks =>
    refine ⟨1, ?_, ?_⟩
    · rw [triggers]
      exact Array.size_push _
    · have count := Collection.countPut (k := .trigger) (c := b.store.triggers)
        (o := t.withStatus version (t.desired base b.store.tasks)) (WebhookTrigger.unsettled base b.store.tasks) stored
      rw [due, WebhookTrigger.desiredSettles] at count
      unfold unsettled
      rw [tasks, triggers]
      exact count.symm

theorem settles (done : b.Publishes base key after) (covered : other = key ∨ b.SettledAt base other) :
    after.SettledAt base other := by
  cases done with
  | idle settled =>
    rcases covered with rfl | before
    · exact settled
    · exact before
  | @wrote t _ version stored own due triggers tasks =>
    intro u found
    rw [tasks]
    unfold Store.get? at found
    rw [show after.store.collection .trigger = _ from triggers] at found
    rcases Collection.putFound found with ⟨-, rfl⟩ | ⟨apart, old⟩
    · exact WebhookTrigger.desiredSettles _ _ _ _
    · rcases covered with rfl | before
      · exact absurd own.symm apart
      · exact before u old

theorem found (done : b.Publishes base key after) :
    ((after.store.get? .trigger key).filter (·.spec.isValid)).map WebhookTrigger.unnoted =
      ((b.store.get? .trigger key).filter (·.spec.isValid)).map WebhookTrigger.unnoted := by
  cases done with
  | idle => rfl
  | @wrote t _ version stored own due triggers tasks =>
    subst own
    have put : after.store.get? .trigger t.key = some (t.withStatus version (t.desired base b.store.tasks)) := by
      have there := Collection.putSame b.store.triggers (t.withStatus version (t.desired base b.store.tasks))
      rw [← triggers] at there
      exact there
    rw [put, stored, Option.filter_some, Option.filter_some]
    change (if t.spec.isValid = true then _ else _ : Option WebhookTrigger).map _ = _
    split <;> rfl

end Publishes

section
variable {keys : List Key}

theorem publishedAllTasks : (keys.foldl (published base) b).store.tasks = b.store.tasks := by
  induction keys generalizing b with
  | nil => rfl
  | cons key rest ih => exact ih.trans (b.publishes base key).tasks

theorem publishedAllCounted (base : String) (b : Backend) (keys : List Key) : ∃ n,
    (keys.foldl (published base) b).store.triggers.events.size = b.store.triggers.events.size + n ∧
      b.unsettled base = (keys.foldl (published base) b).unsettled base + n := by
  induction keys generalizing b with
  | nil => exact ⟨0, rfl, rfl⟩
  | cons key rest ih =>
    obtain ⟨n, size, left⟩ := (b.publishes base key).counted
    obtain ⟨m, size', left'⟩ := ih (b.published base key)
    refine ⟨n + m, ?_, ?_⟩
    · rw [List.foldl_cons, size', size, Nat.add_assoc]
    · rw [List.foldl_cons, left, left', Nat.add_assoc, Nat.add_comm m]

theorem publishedAllSettles (covered : other ∈ keys ∨ b.SettledAt base other) :
    (keys.foldl (published base) b).SettledAt base other := by
  induction keys generalizing b with
  | nil => exact covered.resolve_left List.not_mem_nil
  | cons key rest ih =>
    refine ih (b := b.published base key) ?_
    rw [List.mem_cons] at covered
    rcases covered with (same | later) | before
    · exact .inr ((b.publishes base key).settles (.inl same))
    · exact .inl later
    · exact .inr ((b.publishes base key).settles (.inr before))

end
end Backend

namespace TriggerController
variable {base : String} {b : Backend} {registry : Registry} {key : Key} {now : Instant}

theorem syncStatusRun (base : String) (t : WebhookTrigger) (now : Instant) (b : Backend) :
    ((syncStatus base t).run now b).2 = if t.desired base b.store.tasks = t.status then b
      else { b with store := (b.store.updateStatus .trigger { t with status := t.desired base b.store.tasks }).2 } := by
  have listed : (Procedure.ask (.list .task (Webhook.scope t.key.ns t.key.name none))).runWith
      (Backend.perform now) b = (.ok (b.store.list .task (Webhook.scope t.key.ns t.key.name none)), b) := rfl
  have desired : desiredStatus t.status (Webhook.url base t.key)
      (activeNames (b.store.list .task (Webhook.scope t.key.ns t.key.name none))) = t.desired base b.store.tasks := rfl
  unfold syncStatus
  dsimp only
  rw [Procedure.run, Procedure.runBind, listed]
  dsimp only
  rw [desired]
  by_cases same : t.desired base b.store.tasks = t.status
  · rw [if_pos same, if_pos same]
    rfl
  · rw [if_neg same, if_neg same, Procedure.runBind]
    cases ((Procedure.ask (.updateStatus .trigger { t with status := t.desired base b.store.tasks })).runWith
      (Backend.perform now) b).1 <;> rfl

theorem publishRun (base : String) (b : Backend) (key : Key) (now : Instant) :
    ((publish base (b.store.get? .trigger key)).run now b).2 = b.published base key := by
  unfold Backend.published
  cases b.store.get? .trigger key with
  | none => rfl
  | some t =>
    unfold publish WebhookTrigger.unsettled TriggerSpec.isValid
    dsimp only
    cases t.spec.fault? with
    | some e => rfl
    | none =>
      rw [Procedure.run, Procedure.runBind]
      refine (syncStatusRun base t now b).trans ?_
      by_cases same : t.desired base b.store.tasks = t.status <;> simp [same]

theorem synced (base : String) (registry : Registry) (key : Key) (now : Instant) (b : Backend) :
    (sync base registry key).run now b =
      (registry.follow key (b.store.get? .trigger key), b.published base key) := by
  rw [syncRun, publishRun]

/-- What is left to a second time by the first: nothing is written, and the trigger is registered as the first
time left it. -/
structure Renews (key : Key) (b : Backend) (once twice : Registry × Backend) : Prop where
  idle : twice.2 = once.2
  others : ∀ other, other ≠ key → twice.1.get? other = once.1.get? other
  stored : twice.1.get? key = (once.2.store.get? .trigger key).filter (·.spec.isValid)
  copy : (twice.1.get? key).map WebhookTrigger.unnoted = (once.1.get? key).map WebhookTrigger.unnoted
  same : once.2 = b → twice.1 = once.1

theorem syncedTwice (base : String) (registry : Registry) (key : Key) (now later last : Instant) (b : Backend) :
    let once := (sync base registry key).run now b
    let twice := (sync base once.1 key).run later once.2
    Renews key b once twice ∧ (sync base twice.1 key).run last twice.2 = twice := by
  have rests : (b.published base key).published base key = b.published base key :=
    Backend.publishedIdle ((b.publishes base key).settles (.inl rfl))
  have own (b : Backend) (t : WebhookTrigger) (found : b.store.get? .trigger key = some t) : t.key = key :=
    b.store.triggers.keyed found
  dsimp only
  rw [synced, synced, rests, synced, rests, Registry.followTwice]
  refine ⟨⟨rfl, fun other apart => Registry.followOther (own _) apart, Registry.followOwn (own _), ?_, ?_⟩, rfl⟩
  · dsimp only
    rw [Registry.followOwn (own _), Registry.followOwn (own _)]
    exact (b.publishes base key).found
  · intro idle
    dsimp only at idle ⊢
    rw [idle, Registry.followTwice]

theorem syncedAll (base : String) (registry : Registry) (keys : List Key) (now : Instant) (b : Backend) :
    ((syncAll base registry keys).run now b).2 = keys.foldl (Backend.published base) b := by
  induction keys generalizing registry b with
  | nil => rfl
  | cons key rest ih =>
    unfold syncAll
    rw [Procedure.run, Procedure.runBind]
    have first := synced base registry key now b
    unfold Procedure.run at first
    rw [first]
    exact ih _ _

theorem resynced (base : String) (registry : Registry) (now : Instant) (b : Backend) :
    ((resync base registry).run now b).2 =
      ((b.store.list .trigger .all).map WebhookTrigger.key).foldl (Backend.published base) b :=
  syncedAll base (registry.retain _) _ now b

end TriggerController
end Turnstile
