import Turnstile.Controller.Tasks
import Turnstile.Controller.Triggers
import Turnstile.Faults
import Turnstile.Http.Routes
/-! The whole service on a clock that is moved by hand: the store and the
workloads, the triggers that are served, and the controllers that run. -/
namespace Turnstile

structure Platform where
  config : Config
  environment : Option TextMap
  startedAt : Instant
  elapsed : Duration
  ports : FaultyBackend
  registry : Registry
  names : Nat → String
  named : Nat

namespace Platform

def fresh (config : Config) (environment : Option TextMap) (simulatedRuntime : Option Duration)
    (names : Nat → String) (now : Instant) : Platform where
  config := config
  environment := environment
  startedAt := now
  elapsed := .zero
  ports := ⟨⟨.empty, { Workloads.empty with simulatedRuntime }⟩, []⟩
  registry := .empty
  names := names
  named := 0

def now (p : Platform) : Instant := p.startedAt.shift p.elapsed.nanoseconds

def store (p : Platform) : Store := p.ports.backend.store
def workloads (p : Platform) : Workloads := p.ports.backend.workloads

def run {α : Type} (p : Platform) (guarded : Bool) (procedure : Procedure α) : α × Platform :=
  let (a, ports) := procedure.runWith (FaultyBackend.perform guarded p.now) p.ports
  (a, { p with ports })

def disturb {α : Type} (p : Platform) (f : Workloads → α × Workloads) : α × Platform :=
  let (a, workloads) := f p.workloads
  (a, { p with ports := { p.ports with backend := { p.ports.backend with workloads } } })

def addFault (p : Platform) (f : Fault) : Platform :=
  { p with ports := { p.ports with faults := p.ports.faults ++ [f] } }

def secrets (p : Platform) : SecretSources := ⟨p.environment, p.store.secrets.objects⟩

def baseUrl (p : Platform) : String := p.config.server.baseUrl

def deliver (p : Platform) (guarded : Bool) (engine : FilterEngine) (r : WebhookRequest) :
    Webhook.Delivery × FilterEngine × Platform :=
  let (procedure, engine) :=
    Webhook.handle p.registry p.secrets (fun i => p.names (p.named + i)) p.now engine r
  let (d, p) := p.run guarded procedure
  (d, engine, { p with named := p.named + d.made })

def respond (p : Platform) (engine : FilterEngine) (r : Http.Request) :
    Http.Response × FilterEngine × Platform :=
  match Http.route p.config.server.maxBodyBytes.toNat r with
  | .answered response => (response, engine, p)
  | .webhook request =>
    let (d, engine, p) := p.deliver false engine request
    (.ofDelivery d, engine, p)

def register (p : Platform) (t : WebhookTrigger) : Except TriggerSpecError Unit × Platform :=
  let (r, registry) := p.registry.register t
  (r, { p with registry })

def unregister (p : Platform) (key : Key) : Bool × Platform :=
  let (removed, registry) := p.registry.unregister key
  (removed, { p with registry })

def updateRegistry (p : Platform) (guarded : Bool) (f : Registry → Procedure Registry) : Platform :=
  let (registry, p) := p.run guarded (f p.registry)
  { p with registry }

end Platform

structure Controllers where
  tasks : TaskController
  triggers : TriggerController
  guarded : Bool
  deriving DecidableEq, Repr

namespace Controllers

def addKeys (c : Controllers) (keys : List Key) : Controllers :=
  { c with tasks := { c.tasks with queue := c.tasks.queue.addAll keys } }

/-- Watching begins with the changes after the first look at what is stored. -/
def start (p : Platform) (guarded : Bool) : Controllers × Platform :=
  let resyncAt : Duration := ⟨p.elapsed.nanoseconds + p.config.resyncInterval.nanoseconds⟩
  let tasksSeen := p.store.tasks.events.size
  let c : Controllers := {
    tasks := ⟨.empty, tasksSeen, p.store.agents.events.size, resyncAt⟩
    triggers := ⟨p.store.triggers.events.size, tasksSeen, resyncAt⟩
    guarded }
  let (keys, p) := p.run guarded TaskController.unfinished
  (c.addKeys keys, p.updateRegistry guarded (TriggerController.resync p.baseUrl))

def onTaskNotice? (c : Controllers) (p : Platform) : Option (Controllers × Platform) :=
  (p.store.tasks.notice? c.tasks.tasksSeen).map fun (notice, seen) =>
    let (keys, p) := p.run c.guarded (TaskController.wokenByTasks notice)
    ({ c with tasks := { c.tasks with tasksSeen := seen } }.addKeys keys, p)

def onAgentNotice? (c : Controllers) (p : Platform) : Option (Controllers × Platform) :=
  (p.store.agents.notice? c.tasks.agentsSeen).map fun (notice, seen) =>
    let (keys, p) := p.run c.guarded (TaskController.wokenByAgents notice)
    ({ c with tasks := { c.tasks with agentsSeen := seen } }.addKeys keys, p)

def onTriggerNotice? (c : Controllers) (p : Platform) : Option (Controllers × Platform) :=
  (p.store.triggers.notice? c.triggers.triggersSeen).map fun (notice, seen) =>
    ({ c with triggers := { c.triggers with triggersSeen := seen } },
      p.updateRegistry c.guarded fun r => TriggerController.onTrigger p.baseUrl r notice)

def onTriggerTaskNotice? (c : Controllers) (p : Platform) : Option (Controllers × Platform) :=
  (p.store.tasks.notice? c.triggers.tasksSeen).map fun (notice, seen) =>
    ({ c with triggers := { c.triggers with tasksSeen := seen } },
      p.updateRegistry c.guarded fun r => TriggerController.onTask p.baseUrl r notice)

def work? (c : Controllers) (p : Platform) : Option (Controllers × Platform) :=
  c.tasks.queue.next?.map fun (key, queue) =>
    let (result, p) := p.run c.guarded (p.config.reconciler.reconcile p.now key)
    ({ c with tasks := { c.tasks with
      queue := TaskController.settle p.elapsed key result queue } }, p)

def firstOf (c : Controllers) (p : Platform) :
    List (Controllers → Platform → Option (Controllers × Platform)) → Option (Controllers × Platform)
  | [] => none
  | f :: rest =>
    match f c p with
    | some next => some next
    | none => firstOf c p rest

/-- Workers finish their keys before the loops see what that changed. -/
def workers : List (Controllers → Platform → Option (Controllers × Platform)) := [work?]

def loops : List (Controllers → Platform → Option (Controllers × Platform)) :=
  [onTaskNotice?, onAgentNotice?, onTriggerNotice?, onTriggerTaskNotice?]

def repeat_ (steps : List (Controllers → Platform → Option (Controllers × Platform))) :
    Nat → Controllers → Platform → Controllers × Platform
  | 0, c, p => (c, p)
  | fuel + 1, c, p =>
    match firstOf c p steps with
    | none => (c, p)
    | some (c, p) => repeat_ steps fuel c p

def rest (limit : Nat) : Nat → Controllers → Platform → Controllers × Platform
  | 0, c, p => (c, p)
  | fuel + 1, c, p =>
    let (c, p) := repeat_ workers limit c p
    match firstOf c p loops with
    | none => (c, p)
    | some (c, p) =>
      let (c, p) := repeat_ loops limit c p
      rest limit fuel c p

def wake (c : Controllers) (p : Platform) : Controllers × Platform :=
  let now := p.elapsed
  let next : Duration := ⟨c.tasks.resyncAt.nanoseconds + p.config.resyncInterval.nanoseconds⟩
  let (c, p) :=
    if c.tasks.resyncAt ≤ now then
      let (keys, p) := p.run c.guarded TaskController.unfinished
      let c := c.addKeys keys
      ({ c with
          tasks := { c.tasks with resyncAt := next }
          triggers := { c.triggers with resyncAt := next } },
        p.updateRegistry c.guarded (TriggerController.resync p.baseUrl))
    else (c, p)
  ({ c with tasks := { c.tasks with queue := c.tasks.queue.expire now } }, p)

end Controllers

structure Service where
  platform : Platform
  intake : FilterEngine
  served : FilterEngine
  running : List Controllers

namespace Service

def fresh (p : Platform) : Service := ⟨p, .empty, .empty, []⟩

def limit : Nat := 100000

def restAll (p : Platform) : List Controllers → List Controllers × Platform
  | [] => ([], p)
  | c :: rest =>
    let (c, p) := Controllers.rest limit limit c p
    let (rest, p) := restAll p rest
    (c :: rest, p)

def restTimes : Nat → List Controllers → Platform → List Controllers × Platform
  | 0, cs, p => (cs, p)
  | n + 1, cs, p =>
    let (cs, p) := restAll p cs
    restTimes n cs p

def settle (s : Service) : Service :=
  let turns := if s.running.length ≤ 1 then s.running.length else 8
  let (running, platform) := restTimes turns s.running s.platform
  { s with running, platform }

def wakeAll (p : Platform) : List Controllers → List Controllers × Platform
  | [] => ([], p)
  | c :: rest =>
    let (c, p) := c.wake p
    let (rest, p) := wakeAll p rest
    (c :: rest, p)

def tick (s : Service) (d : Duration) : Service :=
  let platform := { s.platform with elapsed := ⟨s.platform.elapsed.nanoseconds + d.nanoseconds⟩ }
  let (running, platform) := wakeAll platform s.running
  { s with running, platform }.settle

def second : Duration := .ofSeconds 1

def tickSeconds : Nat → Service → Service
  | 0, s => s
  | n + 1, s => tickSeconds n (s.tick second)

/-- While controllers run, time passes a second at a time. -/
def advance (s : Service) (d : Duration) : Service :=
  if s.running.isEmpty then s.tick d
  else
    let s := tickSeconds d.seconds s
    if d.subsecond = 0 then s else s.tick ⟨d.subsecond⟩

def start (s : Service) (guarded : Bool) : Service :=
  let (c, platform) := Controllers.start s.platform guarded
  { s with platform, running := s.running ++ [c] }

def stop (s : Service) : Service := { s with running := [] }

def run {α : Type} (s : Service) (procedure : Procedure α) : α × Service :=
  let (a, platform) := s.platform.run true procedure
  (a, { s with platform })

def deliver (s : Service) (r : WebhookRequest) : Webhook.Delivery × Service :=
  let (d, intake, platform) := s.platform.deliver true s.intake r
  (d, { s with intake, platform })

def respond (s : Service) (r : Http.Request) : Http.Response × Service :=
  let (response, served, platform) := s.platform.respond s.served r
  (response, { s with served, platform })

end Service
end Turnstile
