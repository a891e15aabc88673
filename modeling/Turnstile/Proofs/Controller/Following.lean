import Turnstile.Proofs.Controller.Running
import Turnstile.Proofs.Controller.Serving
/-! What is served follows what is stored. What the loop does for a notice at once is a number of
its steps with nobody's in between, so whatever holds of all its runs holds of controllers that
run in turns. -/
namespace Turnstile
open TriggerController

theorem Registry.retainDrops (r : Registry) (live : List Key) :
    (r.keys.filter fun key => !live.contains key).foldl (fun r key => (r.unregister key).2) r = r.retain live := by
  have each : ∀ (keys : List Key) (r : Registry),
      keys.foldl (fun r key => (r.unregister key).2) r = ⟨keys.foldl SortedMap.erase r.triggers⟩ := by
    intro keys
    induction keys with
    | nil => exact fun _ => rfl
    | cons key rest ih => exact fun r => ih (r.unregister key).2
  rw [each, SortedMap.eraseAll]
  unfold retain
  congr 1
  apply SortedMap.ext
  refine List.filter_congr fun e inside => ?_
  have held : e.1 ∈ r.keys := List.mem_map_of_mem inside
  simp [held]

theorem TriggerController.syncRun (base : String) (registry : Registry) (key : Key) (now : Instant) (b : Backend) :
    (sync base registry key).run now b =
      (registry.follow key (b.store.get? .trigger key),
        ((publish base (b.store.get? .trigger key)).run now b).2) := by
  have read : (Procedure.ask (.get .trigger key)).runWith (Backend.perform now) b =
      (.ok (b.store.get? .trigger key), b) := rfl
  unfold sync
  rw [Procedure.run, Procedure.runBind, read]
  cases b.store.get? .trigger key with
  | none => rfl
  | some t =>
    unfold Registry.follow publish
    dsimp only
    cases fault : t.spec.fault? with
    | some e =>
      rw [Registry.registerInvalid fault]
      rfl
    | none =>
      rw [Registry.registerValid fault]
      dsimp only
      rw [Procedure.runBind, Procedure.run, Procedure.runBind]
      rfl

def Occasion.procedure (base : String) (registry : Registry) : Occasion → Procedure Registry
  | start | tick => resync base registry
  | trigger notice => onTrigger base registry notice
  | task notice => onTask base registry notice

namespace Serving
variable {base : String} {s : Serving} {occasion : Occasion} {rest : List Job} {now : Instant}

def attended (base : String) (s : Serving) (occasion : Occasion) (now : Instant) : Serving := { s with
  registry := ((occasion.procedure base s.registry).run now s.backend).1
  backend := ((occasion.procedure base s.registry).run now s.backend).2
  work := .waiting }

theorem Reachable.ran {α : Type} (past : Reachable base s) (p : Procedure α) (now : Instant) :
    Reachable base { s with backend := (p.run now s.backend).2 } := by
  induction p generalizing s with
  | done a => exact past
  | call c next ih => exact ih _ (past.step (.written s now c))

theorem Reachable.droppedAll {keys : List Key}
    (past : Reachable base { s with work := .doing occasion (keys.map .drop ++ rest) }) :
    Reachable base { s with
      registry := keys.foldl (fun r key => (r.unregister key).2) s.registry
      work := .doing occasion rest } := by
  induction keys generalizing s with
  | nil => exact past
  | cons key more ih =>
    exact ih (s := { s with registry := (s.registry.unregister key).2 }) (past.step (.dropped _ rfl))

theorem Reachable.publishedAll {p : Procedure Unit}
    (past : Reachable base { s with work := .doing occasion (.publish p :: rest) }) :
    Reachable base { s with backend := (p.run now s.backend).2, work := .doing occasion rest } := by
  induction p generalizing s with
  | done u => exact past.step (.published _ rfl)
  | call c next ih =>
    exact ih _ (s := { s with backend := (s.backend.perform now c).2 }) (past.step (.asked _ now rfl))

theorem Reachable.synced {key : Key}
    (past : Reachable base { s with work := .doing occasion (.read key :: rest) }) :
    Reachable base { s with
      registry := ((sync base s.registry key).run now s.backend).1
      backend := ((sync base s.registry key).run now s.backend).2
      work := .doing occasion rest } := by
  have followed := (past.step (.read _ rfl)).step (.followed _ rfl)
  rw [syncRun]
  exact Reachable.publishedAll (s := { s with
    registry := s.registry.follow key (s.backend.store.get? .trigger key) }) followed

theorem Reachable.syncedAll {keys : List Key}
    (past : Reachable base { s with work := .doing occasion (keys.map .read ++ rest) }) :
    Reachable base { s with
      registry := ((syncAll base s.registry keys).run now s.backend).1
      backend := ((syncAll base s.registry keys).run now s.backend).2
      work := .doing occasion rest } := by
  induction keys generalizing s with
  | nil => exact past
  | cons key more ih =>
    unfold syncAll
    rw [Procedure.run, Procedure.runBind]
    exact ih (s := { s with
      registry := ((sync base s.registry key).run now s.backend).1
      backend := ((sync base s.registry key).run now s.backend).2 }) past.synced

theorem Reachable.resynced (past : Reachable base { s with work := .doing occasion (.list :: rest) }) :
    Reachable base { s with
      registry := ((resync base s.registry).run now s.backend).1
      backend := ((resync base s.registry).run now s.backend).2
      work := .doing occasion rest } := by
  have listed := past.step (.listed _ (s.registry.keys.filter fun key =>
    !((s.backend.store.list .trigger .all).map WebhookTrigger.key).contains key) rfl fun key => by
      rw [List.mem_filter, Bool.not_eq_true', List.contains_eq_mem, decide_eq_false_iff_not])
  rw [List.append_assoc] at listed
  have kept := listed.droppedAll
  rw [Registry.retainDrops] at kept
  exact Reachable.syncedAll (s := { s with registry := s.registry.retain _ }) kept

theorem Reachable.attended (past : Reachable base s) (begun : s.work = .doing occasion occasion.jobs)
    (now : Instant) : Reachable base (s.attended base occasion now) := by
  replace past : Reachable base { s with work := .doing occasion occasion.jobs } := by
    rw [← begun]
    exact past
  have done : Reachable base { s.attended base occasion now with work := .doing occasion [] } := by
    cases occasion with
    | start | tick => exact past.resynced
    | trigger notice =>
      cases notice with
      | lagged => exact past.resynced
      | event e =>
        cases e with
        | applied t => exact past.synced
        | deleted t => exact past.step (.dropped _ rfl)
    | task notice =>
      cases notice with
      | lagged => exact past.resynced
      | event e =>
        unfold attended Occasion.procedure onTask
        unfold Occasion.jobs at past
        dsimp only at past ⊢
        cases owned : owner? e.object with
        | none =>
          rw [owned] at past
          exact past
        | some key =>
          rw [owned] at past
          exact past.synced
  exact done.step (.rested _ rfl)

def of (c : Controllers) (p : Platform) : Serving where
  backend := p.ports.backend
  registry := p.registry
  triggersSeen := c.triggers.triggersSeen
  tasksSeen := c.triggers.tasksSeen
  work := .waiting

section
variable {c d : Controllers} {p q : Platform}

theorem Reachable.updated (occasion : Occasion)
    (past : Reachable p.baseUrl { of c p with work := .doing occasion occasion.jobs }) (calm : p.Calm)
    (guarded : Bool) : Reachable p.baseUrl (of c (p.updateRegistry guarded (occasion.procedure p.baseUrl ·))) := by
  have after := past.attended rfl p.now
  unfold Platform.updateRegistry
  rw [Platform.runCalm calm]
  exact after

theorem Reachable.ofRun {α : Type} (past : Reachable p.baseUrl (of c p)) (calm : p.Calm) (guarded : Bool)
    (procedure : Procedure α) :
    Reachable (p.run guarded procedure).2.baseUrl (of c (p.run guarded procedure).2) ∧
      (p.run guarded procedure).2.Calm := by
  rw [Platform.runCalm calm]
  exact ⟨past.ran procedure p.now, rfl⟩

theorem Reachable.ofStart (calm : p.Calm) (guarded : Bool) :
    Reachable (Controllers.start p guarded).2.baseUrl
      (of (Controllers.start p guarded).1 (Controllers.start p guarded).2) := by
  have opened : Reachable p.baseUrl (Serving.opened p.ports.backend p.registry) := .opened _ _
  have looked := opened.ran TaskController.unfinished p.now
  unfold Controllers.start
  rw [Platform.runCalm calm]
  refine Reachable.updated (p := { p with
    ports := ⟨(TaskController.unfinished.run p.now p.ports.backend).2, []⟩ }) .start ?_ rfl guarded
  exact looked

theorem Reachable.ofTrigger (past : Reachable p.baseUrl (of c p)) (calm : p.Calm)
    (next : c.onTriggerNotice? p = some (d, q)) : Reachable q.baseUrl (of d q) := by
  unfold Controllers.onTriggerNotice? at next
  obtain ⟨⟨notice, seen⟩, found, same⟩ := Option.map_eq_some_iff.mp next
  have begun := past.step (.triggerNotice (of c p) rfl found)
  cases same
  exact Reachable.updated (c := { c with triggers := { c.triggers with triggersSeen := seen } })
    (.trigger notice) begun calm c.guarded

theorem Reachable.ofTask (past : Reachable p.baseUrl (of c p)) (calm : p.Calm)
    (next : c.onTriggerTaskNotice? p = some (d, q)) : Reachable q.baseUrl (of d q) := by
  unfold Controllers.onTriggerTaskNotice? at next
  obtain ⟨⟨notice, seen⟩, found, same⟩ := Option.map_eq_some_iff.mp next
  have begun := past.step (.taskNotice (of c p) rfl found)
  cases same
  exact Reachable.updated (c := { c with triggers := { c.triggers with tasksSeen := seen } })
    (.task notice) begun calm c.guarded

theorem Reachable.ofWake (past : Reachable p.baseUrl (of c p)) (calm : p.Calm) :
    Reachable (c.wake p).2.baseUrl (of (c.wake p).1 (c.wake p).2) := by
  by_cases due : c.tasks.resyncAt ≤ p.elapsed
  · obtain ⟨resyncAt, woken⟩ := Controllers.wakeDue due
    obtain ⟨looked, calm⟩ := past.ofRun calm c.guarded TaskController.unfinished
    have begun := looked.step (.ticked _ rfl)
    rw [woken]
    exact Reachable.updated .tick begun calm c.guarded
  · unfold Controllers.wake
    dsimp only
    rw [if_neg due]
    exact past

end

/-- Except while the loop catches up, a key is served as it is stored, or its change is
unhandled. Once all changes are handled, all valid triggers are served, and nothing else. -/
theorem registryFollows (past : Reachable base s) (up : ¬ s.work.CatchesUp) :
    (∀ key, s.Unhandled key ∨
      s.registry.get? key = (s.backend.store.get? .trigger key).filter (·.spec.isValid)) ∧
    ((∀ key, ¬ s.Unhandled key) → ∀ key t, s.registry.get? key = some t ↔
      s.backend.store.get? .trigger key = some t ∧ t.spec.isValid = true) := by
  refine ⟨past.sound.exact up, fun handled key t => ?_⟩
  rw [(past.sound.exact up key).resolve_left (handled key), Option.filter_eq_some_iff]

theorem noneUnhandled (idle : s.work = .waiting) (taken : s.triggers.events.size ≤ s.triggersSeen)
    (key : Key) : ¬ s.Unhandled key := by
  rintro (⟨i, e, later, event, -⟩ | handles)
  · have beyond : s.triggers.events[i]? = none := Array.getElem?_eq_none (Nat.le_trans taken later)
    cases beyond.symm.trans event
  · rw [idle] at handles
    exact handles

def noticed (base : String) (s : Serving) : Serving :=
  match s.triggers.notice? s.triggersSeen with
  | some (notice, seen) => { s with triggersSeen := seen }.attended base (.trigger notice) default
  | none => s

theorem Reachable.noticed (past : Reachable base s) (idle : s.work = .waiting) :
    Reachable base (s.noticed base) ∧ (s.noticed base).work = .waiting := by
  unfold Serving.noticed
  split
  · rename_i found
    exact ⟨(past.step (.triggerNotice s idle found)).attended rfl default, rfl⟩
  · exact ⟨past, idle⟩

def hook : WebhookTrigger :=
  ⟨Metadata.ofKey ⟨"ns", "hook"⟩, ⟨none, "", .allow, some ⟨"", none, [], [], none, .empty⟩, []⟩, .fresh⟩

def looked : Serving :=
  (opened (Backend.empty.perform default (.create .trigger hook)).2 .empty).attended "" .start default

def remade : Serving := { looked with
  backend := ((looked.backend.perform default (.delete .trigger hook.key)).2.perform default
    (.create .trigger hook)).2 }

/-- After the look at the start its URL is published, which is a change as well. -/
def deletionTaken : Serving := (remade.noticed "").noticed ""

def allTaken : Serving := (deletionTaken.noticed "").noticed ""

theorem remadeServed :
    (deletionTaken.registry.get? hook.key = none ∧
      (deletionTaken.backend.store.get? .trigger hook.key).isSome = true ∧ deletionTaken.Unhandled hook.key) ∧
    ∃ t, allTaken.backend.store.get? .trigger hook.key = some t ∧ allTaken.registry.get? hook.key = some t := by
  have started : Reachable "" looked := (Reachable.opened _ _).attended rfl default
  have start : Reachable "" remade :=
    (started.step (.written _ default (.delete .trigger hook.key))).step
      (.written _ default (.create .trigger hook))
  obtain ⟨first, rested⟩ := start.noticed rfl
  obtain ⟨second, idle⟩ := first.noticed rested
  obtain ⟨third, rested⟩ := second.noticed idle
  obtain ⟨last, ended⟩ := third.noticed rested
  have up : ∀ {s : Serving}, s.work = .waiting → ¬ s.work.CatchesUp := fun idle catching => by
    rw [idle] at catching
    exact catching
  have dropped : deletionTaken.registry.get? hook.key = none := by decide +kernel
  have there : (deletionTaken.backend.store.get? .trigger hook.key).any (·.spec.isValid) = true := by
    decide +kernel
  have back : (allTaken.backend.store.get? .trigger hook.key).any (·.spec.isValid) = true := by decide +kernel
  have taken : allTaken.triggers.events.size ≤ allTaken.triggersSeen := by decide +kernel
  obtain ⟨t, stored, valid⟩ := (Option.any_eq_true _ _).mp there
  obtain ⟨u, found, sound⟩ := (Option.any_eq_true _ _).mp back
  refine ⟨⟨dropped, ?_, ?_⟩, u, found, ?_⟩
  · rw [stored]
    rfl
  · refine ((registryFollows second (up idle)).1 hook.key).resolve_right fun same => ?_
    have served : (deletionTaken.backend.store.get? .trigger hook.key).filter (·.spec.isValid) = some t := by
      rw [stored]
      exact if_pos valid
    cases dropped.symm.trans (same.trans served)
  · exact ((registryFollows last (up ended)).2 (noneUnhandled ended taken) hook.key u).mpr ⟨found, sound⟩

end Serving

namespace Controllers
open Turnstile.Serving
variable {c d : Controllers} {p q : Platform} {others : Platform → Platform → Prop}

theorem Turn.served (turn : Turn c p d q) (past : Reachable p.baseUrl (of c p)) (calm : p.Calm) :
    Reachable q.baseUrl (of d q) := by
  cases turn with
  | looped inside next =>
    -- what the loop of the tasks does is a run of calls to this one
    rcases loopedCases inside next with works | task | agent | trigger | triggerTask
    · obtain ⟨taken, -, same⟩ := Option.map_eq_some_iff.mp works
      cases same
      exact (past.ofRun calm c.guarded (p.config.reconciler.reconcile p.now taken.1)).1
    · obtain ⟨found, -, same⟩ := Option.map_eq_some_iff.mp task
      cases same
      exact (past.ofRun calm c.guarded (TaskController.wokenByTasks found.1)).1
    · obtain ⟨found, -, same⟩ := Option.map_eq_some_iff.mp agent
      cases same
      exact (past.ofRun calm c.guarded (TaskController.wokenByAgents found.1)).1
    · exact past.ofTrigger calm trigger
    · exact past.ofTask calm triggerTask
  | woken => exact past.ofWake calm
  | asked guarded procedure => exact (past.ofRun calm guarded procedure).1
  | disturbed f => exact past.step (.worked _ _)

theorem Living.served
    (apart : ∀ p q, others p q → q.ports = p.ports ∧ q.registry = p.registry ∧ q.baseUrl = p.baseUrl)
    (living : Living others c p) : Reachable p.baseUrl (of c p) := by
  have still : ∀ p q, others p q → q.ports = p.ports := fun p q next => (apart p q next).1
  induction living with
  | started p guarded calm => exact .ofStart calm guarded
  | turned past turn ih => exact turn.served ih (past.reachable still).2
  | between past next ih =>
    obtain ⟨ports, registry, base⟩ := apart _ _ next
    unfold of
    rw [ports, registry, base]
    exact ih

/-- Between two turns a key is served as it is stored, unless a change under it is yet to be read. -/
theorem Living.follows
    (apart : ∀ p q, others p q → q.ports = p.ports ∧ q.registry = p.registry ∧ q.baseUrl = p.baseUrl)
    (living : Living others c p) (key : Key) :
    (∃ (i : Nat) (e : Event .trigger), c.triggers.triggersSeen ≤ i ∧
      p.store.triggers.events[i]? = some e ∧ e.key = key) ∨
    p.registry.get? key = (p.store.get? .trigger key).filter (·.spec.isValid) :=
  (living.served apart).sound.idle rfl key

end Controllers
end Turnstile
