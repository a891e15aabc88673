import Turnstile.Proofs.Webhook.Accounts
/-! A trigger over time. A ledger notes what requests made for it, while others change the specs
and delete tasks as they like, but write neither its status nor its label. -/
namespace Turnstile
open Webhook Procedure

/-- What others leave alone: the status and the validity of a trigger, and its label on tasks. -/
structure Backend.Undisturbed (key : Key) (b after : Backend) : Prop where
  new : ∀ other t, b.store.get? .task other = none → after.store.get? .task other = some t →
    (scope key.ns key.name none).matchesMetadata t.metadata = false
  labels : ∀ other t u, b.store.get? .task other = some t → after.store.get? .task other = some u →
    (scope key.ns key.name none).matchesMetadata u.metadata =
      (scope key.ns key.name none).matchesMetadata t.metadata
  trigger : ∀ t, b.store.get? .trigger key = some t → ∃ u, after.store.get? .trigger key = some u ∧
    u.status = t.status ∧ u.spec.fault? = none

structure Ledger where
  scene : Scene
  made : List Made

namespace Ledger
variable {key : Key} {start l next : Ledger}

def synced (l : Ledger) (base : String) (now : Instant) (other : Key) : Ledger := { l with
  scene.registry := ((TriggerController.sync base l.scene.registry other).run now l.scene.backend).1
  scene.backend := ((TriggerController.sync base l.scene.registry other).run now l.scene.backend).2 }

/-- What may happen. A request may find that its calls on tasks fail, and end there; those on its
trigger are answered. -/
inductive Step (key : Key) : Ledger → Ledger → Prop where
  | delivered (l : Ledger) {sources : SecretSources} {names : Nat → String} {now : Instant}
      {engine : FilterEngine} {request : WebhookRequest} {delivery : Delivery} {after : Backend}
      (attempt : Attempt Call.OfTasks now (handle l.scene.registry sources names now engine request).1
        l.scene.backend delivery after) :
      Step key l { l with
        scene.backend := after
        made := born key l.scene.registry request l.scene.backend after ++ l.made }
  | reconciled (l : Ledger) (r : Reconciler) (now : Instant) (task : Key) : Step key l { l with
      scene.backend := ((r.reconcile now task).run now l.scene.backend).2 }
  | stopped (l : Ledger) (now : Instant) (task : Key) : Step key l { l with
      scene.backend := ((Task.requestStop task).run now l.scene.backend).2 }
  | synced (l : Ledger) (base : String) (now : Instant) (other : Key) : Step key l (l.synced base now other)
  | resynced (l : Ledger) (base : String) (now : Instant) : Step key l { l with
      scene.registry := ((TriggerController.resync base l.scene.registry).run now l.scene.backend).1
      scene.backend := ((TriggerController.resync base l.scene.registry).run now l.scene.backend).2 }
  | worked (l : Ledger) (workloads : Workloads) : Step key l { l with
      scene.backend.workloads := workloads }
  | written (l : Ledger) (now : Instant) (call : Call) (leaves : call.LeavesStatus)
      (undisturbed : l.scene.backend.Undisturbed key (l.scene.backend.perform now call).2) :
      Step key l { l with scene.backend := (l.scene.backend.perform now call).2 }

inductive Run (key : Key) (start : Ledger) : Ledger → Prop where
  | start : Run key start start
  | step {l next : Ledger} (past : Run key start l) (step : Step key l next) : Run key start next

/-- The trigger has just been created, and no task carries its label. -/
structure Opened (key : Key) (l : Ledger) : Prop where
  served : l.scene.registry.Sound
  trigger : ∃ t, l.scene.backend.store.get? .trigger key = some t ∧ t.spec.fault? = none ∧ t.status = .fresh
  unlabelled : l.scene.backend.store.list .task (scope key.ns key.name none) = []
  nothing : l.made = []

theorem Opened.accounts (opened : start.Opened key) : Accounts key start.made start.scene.backend := by
  obtain ⟨t, stored, valid, fresh⟩ := opened.trigger
  rw [opened.nothing]
  refine ⟨nofun, t, stored, valid, ?_, ?_, fun other task found busy => ?_⟩
  · rw [fresh]
    exact freshBooked
  · rw [fresh]
    rfl
  · have own : task.key = other := start.scene.backend.store.tasks.keyed found
    have inside : task ∈ start.scene.backend.store.list .task (scope key.ns key.name none) :=
      List.mem_filter.mpr ⟨(Store.stored _).mpr (own ▸ found), (Task.occupiesIff.mp busy).1⟩
    rw [opened.unlabelled] at inside
    cases inside

theorem Step.sound (step : Step key l next) (sound : l.scene.registry.Sound) :
    next.scene.registry.Sound := by
  cases step with
  | delivered | reconciled | stopped | worked | written => exact sound
  | synced base now other => exact TriggerController.soundRun (TriggerController.syncSound base sound other) now _
  | resynced base now => exact TriggerController.soundRun (TriggerController.resyncSound base sound) now _

theorem Step.accounts (step : Step key l next) (sound : l.scene.registry.Sound)
    (accounts : Accounts key l.made l.scene.backend) : Accounts key next.made next.scene.backend := by
  cases step with
  | delivered attempt => exact accounts.delivered sound attempt
  | reconciled r now task =>
    refine accounts.aside (Backend.reconcileSpares r now task l.scene.backend) ?_
    have same := (Reconcile.reconcileChanged r now l.scene.backend task).triggers
    exact congrArg (fun c => c.objects.get? key) same
  | stopped now task =>
    have aside : l.scene.backend.Aside .all ((Task.requestStop task).run now l.scene.backend).2 :=
      Task.stopAttempt (.ofRun _ _) fun _ _ => rfl
    exact accounts.aside aside.1.spares (congrArg (fun c => c.objects.get? key) aside.2)
  | synced base now other => exact accounts.synced base l.scene.registry now other
  | resynced base now => exact accounts.resynced base l.scene.registry now
  | worked workloads => exact accounts.aside (Backend.sparesSame rfl) rfl
  | written now call leaves undisturbed =>
    refine accounts.kept (fun other task found busy => ?_) fun t stored _ => undisturbed.trigger t stored
    obtain ⟨carries, active⟩ := Task.occupiesIff.mp busy
    rcases Backend.performLeaves leaves found with ⟨absent, -⟩ | ⟨old, before, status⟩
    · rw [undisturbed.new other task absent found] at carries
      cases carries
    · rw [undisturbed.labels other old task before found] at carries
      rw [Task.isActive, Task.phase, status] at active
      exact ⟨old, before, Task.occupiesIff.mpr ⟨carries, active⟩⟩

theorem Run.accounts (run : Run key start l) (opened : start.Opened key) :
    l.scene.registry.Sound ∧ Accounts key l.made l.scene.backend := by
  induction run with
  | start => exact ⟨opened.served, opened.accounts⟩
  | step _ step ih => exact ⟨step.sound ih.1, step.accounts ih.1 ih.2⟩

def Active (key : Key) (l : Ledger) (task : Key) : Prop :=
  ∃ t, l.scene.backend.store.get? .task task = some t ∧ t.occupies (scope key.ns key.name none) = true

/-- A status counts what was made, by trigger and by rule, and names each active task once. -/
structure Balanced (key : Key) (l : Ledger) (s : TriggerStatus) : Prop where
  total : s.totalTriggered = UInt64.ofNat l.made.length
  ruleTotals : ∀ r ∈ s.ruleStatuses,
    r.totalTriggered = UInt64.ofNat (l.made.countP fun m => m.rule == some r.name)
  ruleNames : s.ruleNames.Nodup
  entered : ∀ m ∈ l.made, ∀ rule, m.rule = some rule → rule ∈ s.ruleNames
  tasks : s.activeTasks.Nodup
  resources : ∀ r ∈ s.ruleStatuses, r.activeResources.Nodup
  active : ∀ task, l.Active key task → ∃ m, l.made.find? (·.task == task) = some m ∧
    task.name ∈ s.activeTasks ∧
    ∀ rule, m.rule = some rule → ∃ r ∈ s.ruleStatuses, r.name = rule ∧ task.name ∈ r.activeResources

/-- A status names only active tasks, and with a rule those that were made for it. Names come at
random; where one has come twice it may stand for the task made later. -/
structure Exact (key : Key) (l : Ledger) (s : TriggerStatus) : Prop where
  tasks : ∀ name ∈ s.activeTasks, l.Active key ⟨key.ns, name⟩
  resources : ∀ r ∈ s.ruleStatuses, ∀ name ∈ r.activeResources, l.Active key ⟨key.ns, name⟩ ∧
    ∃ m ∈ l.made, m.task = ⟨key.ns, name⟩ ∧ m.rule = some r.name
  own : (l.made.map Made.task).Nodup → ∀ r ∈ s.ruleStatuses, ∀ name ∈ r.activeResources,
    ∀ m ∈ l.made, m.task = ⟨key.ns, name⟩ → m.rule = some r.name

theorem balanced (accounts : Accounts key l.made l.scene.backend) :
    ∃ t, l.scene.backend.store.get? .trigger key = some t ∧ l.Balanced key t.status := by
  obtain ⟨t, stored, -, booked, total, active⟩ := accounts.books
  have listed : ∀ {r}, r ∈ t.status.ruleStatuses → t.status.ruleStatus r.name = r :=
    fun inside => TriggerStatus.ruleStatusListed booked.names inside
  refine ⟨t, stored, total, fun r inside => ?_, booked.names, booked.entered, booked.tasks,
    fun r inside => ?_, fun task ⟨u, found, busy⟩ => ?_⟩
  · rw [← booked.counts, listed inside]
  · rw [← listed inside]
    exact booked.resources r.name
  · obtain ⟨m, last, named⟩ := active task u found busy
    have own : m.task = task := by simpa using List.find?_some last
    have inside := List.mem_of_find?_eq_some last
    subst own
    refine ⟨m, last, named.1, fun rule same => ?_⟩
    obtain ⟨r, there, rfl⟩ := List.mem_map.mp (booked.entered m inside rule same)
    refine ⟨r, there, rfl, ?_⟩
    rw [← listed there]
    exact named.2 r.name same

theorem exact (accounts : Accounts key l.made l.scene.backend) (base : String) (now : Instant) :
    ∃ t, (l.synced base now key).scene.backend.store.get? .trigger key = some t ∧
      (l.synced base now key).Exact key t.status := by
  obtain ⟨t, stored, valid, booked, -⟩ := accounts.books
  have rebooked : l.scene.backend.Rebooked key _ (l.synced base now key).scene.backend :=
    TriggerController.syncRebooks base l.scene.registry now fun u found => by
      cases stored.symm.trans found
      exact valid
  obtain ⟨u, there, -, status⟩ := rebooked.own t stored
  obtain ⟨tasks, resources⟩ := TriggerController.desiredActive t.status (url base key)
    (TriggerController.activeNames (l.scene.backend.store.list .task (scope key.ns key.name none)))
  have pruned := TriggerController.desiredBooked booked (url base key)
    (TriggerController.activeNames (l.scene.backend.store.list .task (scope key.ns key.name none)))
  rw [← status] at tasks resources pruned
  have active : ∀ name, name ∈ TriggerController.activeNames
      (l.scene.backend.store.list .task (scope key.ns key.name none)) →
      (l.synced base now key).Active key ⟨key.ns, name⟩ := by
    intro name inside
    obtain ⟨task, found, busy⟩ := Accounts.memActive.mp inside
    exact ⟨task, (Store.sameFound rebooked.tasks _).trans found, busy⟩
  have listed : ∀ r ∈ u.status.ruleStatuses, ∀ name ∈ r.activeResources,
      name ∈ (u.status.ruleStatus r.name).activeResources := by
    intro r inside name named
    rwa [TriggerStatus.ruleStatusListed pruned.names inside]
  have noted : ∀ r ∈ u.status.ruleStatuses, ∀ name ∈ r.activeResources,
      ∃ m ∈ l.made, m.task = ⟨key.ns, name⟩ ∧ m.rule = some r.name := by
    intro r inside name named
    obtain ⟨m, made, rule, rfl⟩ := pruned.known r.name name (listed r inside name named)
    refine ⟨m, made, ?_, rule⟩
    rw [← accounts.home m made]
  refine ⟨u, there, fun name inside => active name (tasks name inside), fun r inside name named => ?_,
    fun distinct r inside name named m made same => ?_⟩
  · exact ⟨active name (resources r.name name (listed r inside name named)), noted r inside name named⟩
  · obtain ⟨twin, made', same', rule⟩ := noted r inside name named
    rwa [List.inj_on_of_nodup_map distinct made made' (same.trans same'.symm)]

/-- From the creation of a trigger on its status is balanced, and after each sync exact. -/
theorem accountsKept (opened : start.Opened key) (run : Run key start l) :
    (∃ t, l.scene.backend.store.get? .trigger key = some t ∧ l.Balanced key t.status) ∧
    ∀ base now, ∃ t, (l.synced base now key).scene.backend.store.get? .trigger key = some t ∧
      (l.synced base now key).Balanced key t.status ∧ (l.synced base now key).Exact key t.status := by
  obtain ⟨sound, accounts⟩ := run.accounts opened
  refine ⟨balanced accounts, fun base now => ?_⟩
  obtain ⟨t, stored, only⟩ := exact accounts base now
  obtain ⟨u, found, even⟩ := balanced ((Step.synced l base now key).accounts sound accounts)
  cases stored.symm.trans found
  exact ⟨t, stored, even, only⟩

def twoRules : WebhookTrigger :=
  ⟨Metadata.ofKey ⟨"ns", "hook"⟩, ⟨none, "", .allow, none,
    [⟨"first", "", none, ⟨"", none, [], [], none, .empty⟩⟩,
      ⟨"second", "", none, ⟨"", none, [], [], none, .empty⟩⟩]⟩, .fresh⟩

def created : Ledger :=
  ⟨⟨.empty, (Backend.empty.perform default (.create .trigger twoRules)).2⟩, []⟩

def registered : Ledger := created.synced "http://host" default ⟨"ns", "hook"⟩

def clash : Procedure Delivery :=
  (handle registered.scene.registry ⟨none, .empty⟩ (fun _ => "task") default .empty
    ⟨"ns/hook", .empty, Auth.bytesOf "[]"⟩).1

def clashed : Ledger := { registered with
  scene.backend := (clash.run default registered.scene.backend).2
  made := born ⟨"ns", "hook"⟩ registered.scene.registry ⟨"ns/hook", .empty, Auth.bytesOf "[]"⟩
    registered.scene.backend (clash.run default registered.scene.backend).2 ++ registered.made }

/-- The second task is refused, and the first one is counted all the same. -/
theorem firstCounted :
    (clash.run default registered.scene.backend).1.outcome.isOk = false ∧
    clashed.made = [⟨some "first", ⟨"ns", "hook-task"⟩⟩] ∧
    ∃ t, clashed.scene.backend.store.get? .trigger ⟨"ns", "hook"⟩ = some t ∧
      t.status.totalTriggered = 1 ∧ "hook-task" ∈ t.status.activeTasks := by
  have opened : created.Opened ⟨"ns", "hook"⟩ :=
    ⟨Registry.emptySound, ⟨Collection.firstWrite (k := .trigger) 1 default twoRules, by decide +kernel, rfl, rfl⟩,
      by decide +kernel, rfl⟩
  have run : Run ⟨"ns", "hook"⟩ created clashed :=
    (Run.start.step (.synced created "http://host" default ⟨"ns", "hook"⟩)).step
      (.delivered registered (.ofRun clash registered.scene.backend))
  have made : clashed.made = [⟨some "first", ⟨"ns", "hook-task"⟩⟩] := by decide +kernel
  have active : clashed.Active ⟨"ns", "hook"⟩ ⟨"ns", "hook-task"⟩ := by
    have busy : (clashed.scene.backend.store.get? .task ⟨"ns", "hook-task"⟩).any
        (·.occupies (scope "ns" "hook" none)) = true := by decide +kernel
    exact (Option.any_eq_true _ _).mp busy
  obtain ⟨⟨t, stored, balanced⟩, -⟩ := accountsKept opened run
  refine ⟨by decide +kernel, made, t, stored, balanced.total.trans (by rw [made]; rfl), ?_⟩
  obtain ⟨m, -, named, -⟩ := balanced.active _ active
  exact named

end Ledger
end Turnstile
