import Turnstile.Controller.Triggers
import Turnstile.Webhook.Intake
import Turnstile.Proofs.Procedure
/-! Webhook requests and trigger syncs write no task's status, and touch no workload.
They make fresh tasks, mark tasks for stop, and keep the books of the triggers. -/
namespace Turnstile
open Procedure

def Call.Clerical : Call → Prop
  | .create .task task => task.status = .fresh
  | .updateStatus .task _ | .delete .task _ => False
  | .createWorkload _ | .workloadStatus _ | .deleteWorkload _ => False
  | _ => True

theorem Call.Clerical.leaves {c : Call} (clerical : c.Clerical) : c.LeavesStatus := by
  cases c with
  | create k o | updateStatus k o => cases k <;> exact clerical
  | get | list | update | delete | createWorkload | workloadStatus | deleteWorkload => trivial

def Call.OnTasks : Call → Prop
  | .get .. | .list .. | .update .task _ => True
  | _ => False

theorem Call.OnTasks.clerical {c : Call} (only : c.OnTasks) : c.Clerical := by
  cases c with
  | get | list => trivial
  | update k o => cases k <;> trivial
  | create | updateStatus | delete | createWorkload | workloadStatus | deleteWorkload => exact only.elim

def Call.OnTriggers : Call → Prop
  | .get .. | .list .. | .updateStatus .trigger _ => True
  | _ => False

theorem Call.OnTriggers.clerical {c : Call} (only : c.OnTriggers) : c.Clerical := by
  cases c with
  | get | list => trivial
  | updateStatus k o =>
    cases k with
    | trigger => trivial
    | task | agent | template | secret => exact only.elim
  | create | update | delete | createWorkload | workloadStatus | deleteWorkload => exact only.elim

theorem Backend.onTriggersTasks {c : Call} (only : c.OnTriggers) (now : Instant) (b : Backend) :
    (b.perform now c).2.store.tasks = b.store.tasks := by
  cases c with
  | get | list => rfl
  | updateStatus k o =>
    cases k with
    | trigger => rfl
    | task | agent | template | secret => exact only.elim
  | create | update | delete | createWorkload | workloadStatus | deleteWorkload => exact only.elim

theorem Procedure.onTriggersRun {α : Type} {p : Procedure α} (only : Only Call.OnTriggers p) (now : Instant)
    (b : Backend) : (p.run now b).2.store.tasks = b.store.tasks :=
  @Only.runKeeps _ _ p now b (fun after => after.store.tasks = b.store.tasks) only
    (fun _ after one same => (Backend.onTriggersTasks one now after).trans same) rfl

theorem Task.stopOnTasks (key : Key) (attempts : Nat) :
    Only Call.OnTasks (Task.requestStopWithin key attempts) := by
  induction attempts with
  | zero => exact onlyPure _
  | succ attempts ih =>
    unfold requestStopWithin
    refine Only.bind (onlyAsk trivial) fun found => ?_
    cases found with
    | error e => exact onlyPure _
    | ok found =>
      cases found with
      | none => exact onlyPure _
      | some task =>
        dsimp only
        split
        · exact onlyPure _
        · refine Only.bind (onlyAsk trivial) fun written => ?_
          cases written with
          | ok stored => exact onlyPure _
          | error e =>
            dsimp only
            split
            · exact ih
            · exact onlyPure _

theorem Task.stopClerical (key : Key) (attempts : Nat) :
    Only Call.Clerical (Task.requestStopWithin key attempts) :=
  (stopOnTasks key attempts).imp fun _ => Call.OnTasks.clerical

namespace Webhook

theorem stopAllOnTasks (tasks : List Task) : Only Call.OnTasks (stopAll tasks) := by
  induction tasks with
  | nil => exact onlyPure _
  | cons task rest ih => exact Only.bind (Task.stopOnTasks _ _) fun _ => ih

theorem activeOnTasks (ns trigger : String) (rule : Option String) :
    Only Call.OnTasks (activeTasks ns trigger rule) := by
  refine Only.bind (onlyAsk trivial) fun listed => ?_
  cases listed <;> exact onlyPure _

theorem enforceOnTasks (policy : ConcurrencyPolicy) (ns trigger : String)
    (rule : Option String) : Only Call.OnTasks (enforce policy ns trigger rule) := by
  cases policy with
  | allow => exact onlyPure _
  | forbid =>
    refine Only.bind (activeOnTasks _ _ _) fun active => ?_
    cases active <;> exact onlyPure _
  | replace =>
    refine Only.bind (activeOnTasks _ _ _) fun active => ?_
    cases active with
    | error e => exact onlyPure _
    | ok active => exact Only.bind (stopAllOnTasks active) fun _ => onlyPure _

theorem makeTaskClerical (trigger : WebhookTrigger) (name : String) (d : Draft) :
    Only Call.Clerical (makeTask trigger name d) := by
  refine Only.bind ((enforceOnTasks _ _ _ _).imp fun _ => Call.OnTasks.clerical) fun allowed => ?_
  cases allowed with
  | error e => exact onlyPure _
  | ok allowed =>
    cases allowed with
    | false => exact onlyPure _
    | true =>
      -- a new task has the fresh status, whatever the draft
      refine Only.bind (onlyAsk rfl) fun made => ?_
      cases made <;> exact onlyPure _

theorem makeTasksClerical (trigger : WebhookTrigger) (names : Nat → String) (made : List Made)
    (drafts : List Draft) : Only Call.Clerical (makeTasks trigger names made drafts) := by
  induction drafts generalizing made with
  | nil => exact onlyPure _
  | cons d rest ih =>
    refine Only.bind (makeTaskClerical _ _ _) fun one => ?_
    cases one with
    | error e => exact onlyPure _
    | ok one =>
      cases one with
      | none => exact ih _
      | some m => exact ih _

theorem recordOnTriggers (now : Instant) (trigger : Key) (made : List Made) (attempts : Nat) :
    Only Call.OnTriggers (record now trigger made attempts) := by
  induction attempts with
  | zero => exact onlyPure _
  | succ attempts ih =>
    unfold record
    refine Only.bind (onlyAsk trivial) fun found => ?_
    cases found with
    | error e =>
      dsimp only
      split
      · exact ih
      · exact onlyPure _
    | ok found =>
      cases found with
      | none => exact onlyPure _
      | some stored =>
        refine Only.bind (onlyAsk trivial) fun written => ?_
        cases written with
        | ok _ => exact onlyPure _
        | error e =>
          dsimp only
          split
          · exact ih
          · exact onlyPure _

theorem handleClerical (registry : Registry) (sources : SecretSources) (names : Nat → String)
    (now : Instant) (engine : FilterEngine) (request : WebhookRequest) :
    Only Call.Clerical (handle registry sources names now engine request).1 := by
  unfold handle
  split
  · exact onlyPure _
  · rename_i plan _ _
    unfold Plan.carryOut
    split
    · exact onlyPure _
    · refine Only.bind (makeTasksClerical _ _ _ _) fun result => ?_
      obtain ⟨made, failure⟩ := result
      dsimp only
      split
      · refine Only.bind ((recordOnTriggers _ _ _ _).imp fun _ => Call.OnTriggers.clerical) fun _ => ?_
        cases failure <;> exact onlyPure _
      · cases failure <;> exact onlyPure _

theorem handleLeavesStatus (registry : Registry) (sources : SecretSources) (names : Nat → String)
    (now : Instant) (engine : FilterEngine) (request : WebhookRequest) :
    Only Call.LeavesStatus (handle registry sources names now engine request).1 :=
  (handleClerical _ _ _ _ _ _).imp fun _ => Call.Clerical.leaves

end Webhook

namespace TriggerController

theorem syncStatusOnTriggers (base : String) (trigger : WebhookTrigger) :
    Only Call.OnTriggers (syncStatus base trigger) := by
  refine Only.bind (onlyAsk trivial) fun listed => ?_
  cases listed with
  | error e => exact onlyPure _
  | ok tasks =>
    dsimp only
    split
    · exact onlyPure _
    · refine Only.bind (onlyAsk trivial) fun written => ?_
      cases written <;> exact onlyPure _

theorem syncOnTriggers (base : String) (registry : Registry) (key : Key) :
    Only Call.OnTriggers (sync base registry key) := by
  refine Only.bind (onlyAsk trivial) fun found => ?_
  cases found with
  | error e => exact onlyPure _
  | ok found =>
    cases found with
    | none => exact onlyPure _
    | some trigger =>
      dsimp only
      split
      · exact onlyPure _
      · exact Only.bind (syncStatusOnTriggers _ _) fun _ => onlyPure _

theorem syncAllOnTriggers (base : String) (registry : Registry) (keys : List Key) :
    Only Call.OnTriggers (syncAll base registry keys) := by
  induction keys generalizing registry with
  | nil => exact onlyPure _
  | cons key rest ih => exact Only.bind (syncOnTriggers _ _ _) fun registry => ih registry

theorem resyncOnTriggers (base : String) (registry : Registry) :
    Only Call.OnTriggers (resync base registry) := by
  refine Only.bind (onlyAsk trivial) fun listed => ?_
  cases listed with
  | error e => exact onlyPure _
  | ok stored => exact syncAllOnTriggers _ _ _

theorem syncClerical (base : String) (registry : Registry) (key : Key) :
    Only Call.Clerical (sync base registry key) :=
  (syncOnTriggers _ _ _).imp fun _ => Call.OnTriggers.clerical

theorem resyncClerical (base : String) (registry : Registry) :
    Only Call.Clerical (resync base registry) :=
  (resyncOnTriggers _ _).imp fun _ => Call.OnTriggers.clerical

theorem syncLeavesStatus (base : String) (registry : Registry) (key : Key) :
    Only Call.LeavesStatus (sync base registry key) :=
  (syncClerical _ _ _).imp fun _ => Call.Clerical.leaves

theorem resyncLeavesStatus (base : String) (registry : Registry) :
    Only Call.LeavesStatus (resync base registry) :=
  (resyncClerical _ _).imp fun _ => Call.Clerical.leaves

end TriggerController
end Turnstile
