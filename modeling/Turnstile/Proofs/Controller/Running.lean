import Turnstile.Proofs.Controller.Coverage
import Turnstile.Service
/-! The controllers as they run. Each turn that they take is a few steps of the
system, so that no unfinished task is lost sight of however long they run. -/
namespace Turnstile

namespace Platform
variable {α : Type} {p : Platform} {guarded : Bool}

def Calm (p : Platform) : Prop := p.ports.faults = []

theorem faultless (procedure : Procedure α) (now : Instant) (b : Backend) :
    procedure.runWith (FaultyBackend.perform guarded now) ⟨b, []⟩ =
      ((procedure.run now b).1, ⟨(procedure.run now b).2, []⟩) := by
  induction procedure generalizing b with
  | done a => rfl
  | call c next ih =>
    have performed : FaultyBackend.perform guarded now c ⟨b, []⟩ =
        ((b.perform now c).1, ⟨(b.perform now c).2, []⟩) := by
      unfold FaultyBackend.perform
      cases guarded <;> rfl
    rw [Procedure.runCall, performed]
    exact ih _ _

theorem runCalm (calm : p.Calm) (procedure : Procedure α) :
    p.run guarded procedure = ((procedure.run p.now p.ports.backend).1,
      { p with ports := ⟨(procedure.run p.now p.ports.backend).2, []⟩ }) := by
  have ports : p.ports = ⟨p.ports.backend, []⟩ := by
    rw [← calm]
  unfold run
  rw [ports, faultless]

end Platform

namespace System
variable {s : System} {c d : Controllers} {p q : Platform} {guarded : Bool}

theorem Reachable.ran {α : Type} (past : Reachable s) (procedure : Procedure α) (now : Instant) :
    Reachable { s with backend := (procedure.run now s.backend).2 } := by
  induction procedure generalizing s with
  | done a => exact past
  | call c next ih => exact ih _ (past.step (.written s now c))

theorem Reachable.addedAll {cause : Cause} {asked : Bool} {keys : List Key}
    (past : Reachable { s with loop := .adding cause keys asked }) :
    Reachable { s with queue := s.queue.addAll keys, loop := .adding cause [] asked } := by
  induction keys generalizing s with
  | nil => exact past
  | cons key rest ih =>
    have added := past.step (.added _ rfl)
    exact ih (s := { s with queue := s.queue.add key }) added

theorem Reachable.handled {cause : Cause} (past : Reachable { s with loop := .begin cause }) (now : Instant) :
    Reachable { s with
      backend := (cause.others.run now s.backend).2
      queue := (s.queue.addAll cause.first).addAll (cause.others.run now s.backend).1
      loop := .waiting } := by
  have first := past.addedAll
  have asked := first.step (.asked _ now rfl)
  have others := Reachable.addedAll (s := { s with
    backend := (cause.others.run now s.backend).2
    queue := s.queue.addAll cause.first }) asked
  exact others.step (.rested _ rfl)

def of (c : Controllers) (p : Platform) : System where
  backend := p.ports.backend
  queue := c.tasks.queue
  tasksSeen := c.tasks.tasksSeen
  agentsSeen := c.tasks.agentsSeen
  loop := .waiting
  hands := [.free]

theorem Reachable.ofRun {α : Type} (past : Reachable (of c p)) (calm : p.Calm) (guarded : Bool)
    (procedure : Procedure α) :
    Reachable (of c (p.run guarded procedure).2) ∧ (p.run guarded procedure).2.Calm := by
  rw [Platform.runCalm calm]
  exact ⟨past.ran procedure p.now, rfl⟩

theorem Reachable.ofRegistry (past : Reachable (of c p)) (calm : p.Calm) (guarded : Bool)
    (f : Registry → Procedure Registry) :
    Reachable (of c (p.updateRegistry guarded f)) ∧ (p.updateRegistry guarded f).Calm :=
  past.ofRun calm guarded (f p.registry)

theorem Reachable.ofCause {cause : Cause} (past : Reachable { of c p with loop := .begin cause })
    (calm : p.Calm) (guarded : Bool) :
    Reachable (of (c.addKeys (cause.first ++ (p.run guarded cause.others).1)) (p.run guarded cause.others).2) ∧
      (p.run guarded cause.others).2.Calm := by
  have handled := past.handled p.now
  rw [Platform.runCalm calm]
  refine ⟨?_, rfl⟩
  unfold of Controllers.addKeys WorkQueue.addAll
  rw [List.foldl_append]
  exact handled

end System

namespace Controllers
open Turnstile.System
variable {c d : Controllers} {p q : Platform}

theorem startReachable (calm : p.Calm) (guarded : Bool) :
    Reachable (of (start p guarded).1 (start p guarded).2) ∧ (start p guarded).2.Calm := by
  have begun := Reachable.opened p.ports.backend 1
  have found := Reachable.ofCause (c := {
    tasks := ⟨.empty, p.store.tasks.events.size, p.store.agents.events.size,
      ⟨p.elapsed.nanoseconds + p.config.resyncInterval.nanoseconds⟩⟩
    triggers := ⟨p.store.triggers.events.size, p.store.tasks.events.size,
      ⟨p.elapsed.nanoseconds + p.config.resyncInterval.nanoseconds⟩⟩
    guarded }) begun calm guarded
  exact found.1.ofRegistry found.2 guarded _

theorem taskNoticeReachable (past : Reachable (of c p)) (calm : p.Calm)
    (next : c.onTaskNotice? p = some (d, q)) : Reachable (of d q) ∧ q.Calm := by
  unfold onTaskNotice? at next
  obtain ⟨⟨notice, seen⟩, found, same⟩ := Option.map_eq_some_iff.mp next
  have begun := past.step (.taskNotice (of c p) rfl found)
  have added := Reachable.ofCause (c := { c with tasks := { c.tasks with tasksSeen := seen } }) begun calm
    c.guarded
  have keys : (p.run c.guarded (TaskController.wokenByTasks notice)) =
      ((Cause.task notice).first ++ (p.run c.guarded (Cause.task notice).others).1,
        (p.run c.guarded (Cause.task notice).others).2) := by
    rw [Platform.runCalm calm, Platform.runCalm calm, Cause.wokenInTurn]
    unfold Procedure.run
    rw [Procedure.runBind]
    rfl
  dsimp only at same
  rw [keys] at same
  cases same
  exact added

theorem agentNoticeReachable (past : Reachable (of c p)) (calm : p.Calm)
    (next : c.onAgentNotice? p = some (d, q)) : Reachable (of d q) ∧ q.Calm := by
  unfold onAgentNotice? at next
  obtain ⟨⟨notice, seen⟩, found, same⟩ := Option.map_eq_some_iff.mp next
  have begun := past.step (.agentNotice (of c p) rfl found)
  have added := Reachable.ofCause (c := { c with tasks := { c.tasks with agentsSeen := seen } }) begun calm
    c.guarded
  cases same
  exact added

theorem workReachable (past : Reachable (of c p)) (calm : p.Calm) (next : c.work? p = some (d, q)) :
    Reachable (of d q) ∧ q.Calm := by
  unfold work? at next
  obtain ⟨⟨key, queue⟩, taken, same⟩ := Option.map_eq_some_iff.mp next
  have took := past.step (.took (of c p) (i := 0) rfl taken)
  have reconciled := took.step (.reconciled _ (i := 0) p.config.reconciler p.now rfl)
  have requeued := reconciled.step (.requeued _ (i := 0) p.elapsed rfl)
  have released := requeued.step (.released _ (i := 0) rfl)
  dsimp only at same
  rw [Platform.runCalm calm] at same
  cases same
  exact ⟨released, rfl⟩

theorem triggerNoticeReachable (past : Reachable (of c p)) (calm : p.Calm)
    (next : c.onTriggerNotice? p = some (d, q)) : Reachable (of d q) ∧ q.Calm := by
  unfold onTriggerNotice? at next
  obtain ⟨⟨notice, seen⟩, -, same⟩ := Option.map_eq_some_iff.mp next
  cases same
  exact Reachable.ofRegistry past calm c.guarded _

theorem triggerTaskNoticeReachable (past : Reachable (of c p)) (calm : p.Calm)
    (next : c.onTriggerTaskNotice? p = some (d, q)) : Reachable (of d q) ∧ q.Calm := by
  unfold onTriggerTaskNotice? at next
  obtain ⟨⟨notice, seen⟩, -, same⟩ := Option.map_eq_some_iff.mp next
  cases same
  exact Reachable.ofRegistry past calm c.guarded _

theorem wakeDue (due : c.tasks.resyncAt ≤ p.elapsed) :
    ∃ resyncAt, c.wake p =
      (⟨⟨(c.addKeys (p.run c.guarded TaskController.unfinished).1).tasks.queue.expire p.elapsed,
          c.tasks.tasksSeen, c.tasks.agentsSeen, resyncAt⟩, { c.triggers with resyncAt }, c.guarded⟩,
        (p.run c.guarded TaskController.unfinished).2.updateRegistry c.guarded
          (TriggerController.resync (p.run c.guarded TaskController.unfinished).2.baseUrl)) := by
  simp only [wake, if_pos due]
  exact ⟨_, rfl⟩

theorem wakeReachable (past : Reachable (of c p)) (calm : p.Calm) :
    Reachable (of (c.wake p).1 (c.wake p).2) ∧ (c.wake p).2.Calm := by
  by_cases due : c.tasks.resyncAt ≤ p.elapsed
  · have begun := past.step (.ticked (of c p) rfl)
    have added := Reachable.ofCause begun calm c.guarded
    have all : Cause.resync.others = TaskController.unfinished := rfl
    have none : Cause.resync.first = [] := rfl
    rw [all, none, List.nil_append] at added
    have resynced := added.1.ofRegistry added.2 c.guarded
      (TriggerController.resync (p.run c.guarded TaskController.unfinished).2.baseUrl)
    obtain ⟨resyncAt, woken⟩ := wakeDue due
    rw [woken]
    exact ⟨resynced.1.step (.expired _ p.elapsed), resynced.2⟩
  · unfold wake
    dsimp only
    rw [if_neg due]
    exact ⟨past.step (.expired _ p.elapsed), calm⟩

inductive Turn : Controllers → Platform → Controllers → Platform → Prop where
  | looped (c : Controllers) (p : Platform) {d : Controllers} {q : Platform}
      {f : Controllers → Platform → Option (Controllers × Platform)} (inside : f ∈ workers ++ loops)
      (next : f c p = some (d, q)) : Turn c p d q
  | woken (c : Controllers) (p : Platform) : Turn c p (c.wake p).1 (c.wake p).2
  | asked (c : Controllers) (p : Platform) {α : Type} (guarded : Bool) (procedure : Procedure α) :
      Turn c p c (p.run guarded procedure).2
  | disturbed (c : Controllers) (p : Platform) {α : Type} (f : Workloads → α × Workloads) :
      Turn c p c (p.disturb f).2

theorem loopedCases {f : Controllers → Platform → Option (Controllers × Platform)} (inside : f ∈ workers ++ loops)
    (next : f c p = some (d, q)) : c.work? p = some (d, q) ∨ c.onTaskNotice? p = some (d, q) ∨
      c.onAgentNotice? p = some (d, q) ∨ c.onTriggerNotice? p = some (d, q) ∨
      c.onTriggerTaskNotice? p = some (d, q) := by
  simp only [workers, loops, List.mem_append, List.mem_cons, List.not_mem_nil, or_false] at inside
  rcases inside with rfl | rfl | rfl | rfl | rfl <;> simp only [next, true_or, or_true]

theorem Turn.reachable (turn : Turn c p d q) (past : Reachable (of c p)) (calm : p.Calm) :
    Reachable (of d q) ∧ q.Calm := by
  cases turn with
  | looped inside next =>
    rcases loopedCases inside next with works | task | agent | trigger | triggerTask
    · exact workReachable past calm works
    · exact taskNoticeReachable past calm task
    · exact agentNoticeReachable past calm agent
    · exact triggerNoticeReachable past calm trigger
    · exact triggerTaskNoticeReachable past calm triggerTask
  | woken => exact wakeReachable past calm
  | asked guarded procedure => exact past.ofRun calm guarded procedure
  | disturbed f => exact ⟨past.step (.worked _ _), calm⟩

/-- Controllers that were started and have run since, among calls that meet no fault. What else
becomes of the platform between their turns is a rule of the run. -/
inductive Living (others : Platform → Platform → Prop) : Controllers → Platform → Prop where
  | started (p : Platform) (guarded : Bool) (calm : p.Calm) :
      Living others (start p guarded).1 (start p guarded).2
  | turned {c d : Controllers} {p q : Platform} (past : Living others c p) (turn : Turn c p d q) :
      Living others d q
  | between {c : Controllers} {p q : Platform} (past : Living others c p) (next : others p q) :
      Living others c q

variable {others : Platform → Platform → Prop}

theorem Living.reachable (still : ∀ p q, others p q → q.ports = p.ports) (living : Living others c p) :
    Reachable (of c p) ∧ p.Calm := by
  induction living with
  | started p guarded calm => exact startReachable calm guarded
  | turned _ turn ih => exact turn.reachable ih.1 ih.2
  | between _ next ih =>
    unfold of Platform.Calm
    rw [still _ _ next]
    exact ih

theorem firstOfTurn {steps : List (Controllers → Platform → Option (Controllers × Platform))}
    (among : ∀ f ∈ steps, f ∈ workers ++ loops) (first : firstOf c p steps = some (d, q)) :
    Turn c p d q := by
  induction steps with
  | nil => cases first
  | cons f rest ih =>
    unfold firstOf at first
    cases next : f c p with
    | none =>
      rw [next] at first
      exact ih (fun f later => among f (List.mem_cons_of_mem _ later)) first
    | some turned =>
      rw [next] at first
      cases first
      exact .looped c p (among f (List.mem_cons_self ..)) next

theorem Living.repeated {steps : List (Controllers → Platform → Option (Controllers × Platform))}
    (among : ∀ f ∈ steps, f ∈ workers ++ loops) (fuel : Nat) (living : Living others c p) :
    Living others (repeat_ steps fuel c p).1 (repeat_ steps fuel c p).2 := by
  induction fuel generalizing c p with
  | zero => exact living
  | succ fuel ih =>
    unfold repeat_
    cases first : firstOf c p steps with
    | none => exact living
    | some turned => exact ih (living.turned (firstOfTurn among first))

theorem Living.rested (limit fuel : Nat) (living : Living others c p) :
    Living others (rest limit fuel c p).1 (rest limit fuel c p).2 := by
  induction fuel generalizing c p with
  | zero => exact living
  | succ fuel ih =>
    have worked : Living others (repeat_ workers limit c p).1 (repeat_ workers limit c p).2 :=
      living.repeated (fun f => List.mem_append_left _) limit
    unfold rest
    dsimp only
    cases first : firstOf (repeat_ workers limit c p).1 (repeat_ workers limit c p).2 loops with
    | none => exact worked
    | some turned =>
      have all : ∀ f ∈ loops, f ∈ workers ++ loops := fun f => List.mem_append_right _
      exact ih ((worked.turned (firstOfTurn all first)).repeated all limit)

/-- Between two turns the key of an unfinished task is in the queue or delayed, or is yet to be
read from the changes, or is found again because changes were lost. -/
theorem Living.accounted {key : Key} {t : Task} (still : ∀ p q, others p q → q.ports = p.ports)
    (living : Living others c p) (stored : p.store.get? .task key = some t) (active : t.isActive = true) :
    key ∈ c.tasks.queue.ready ∨ key ∈ c.tasks.queue.delayed.map Delayed.key ∨
    (∃ i o, c.tasks.tasksSeen ≤ i ∧ p.store.tasks.events[i]? = some (.applied o) ∧ o.key = key) ∨
    c.tasks.tasksSeen + Collection.retained < p.store.tasks.events.size := by
  have sound := (living.reachable still).1.sound
  cases (sound.covered key t stored active).accounted sound (startedIdle rfl) with
  | queued inside => exact .inl inside
  | held inside own =>
    cases List.mem_singleton.mp inside
    cases own
  | delayed inside => exact .inr (.inl inside)
  | unread later _ event own => exact .inr (.inr (.inl ⟨_, _, later, event, own⟩))
  | lagging behind => exact .inr (.inr (.inr behind))
  | handling busy => cases busy

def attending : Controllers × Platform :=
  let p := Platform.fresh .standard none none (fun _ => "") default
  let p := (p.run false (.ask (.create .task (Task.bare ⟨"ns", "one"⟩ "agent")))).2
  let begun := start p false
  let (c, p) := rest 4 4 begun.1 begun.2
  (c, (p.run false (.ask (.create .task (Task.bare ⟨"ns", "two"⟩ "agent")))).2)

theorem attendingLives : Living others attending.1 attending.2 := by
  have begun : Living others _ _ := .started
    ((Platform.fresh .standard none none (fun _ => "") default).run false
      (.ask (.create .task (Task.bare ⟨"ns", "one"⟩ "agent")))).2 false rfl
  exact (begun.rested 4 4).turned (.asked _ _ false (.ask (.create .task (Task.bare ⟨"ns", "two"⟩ "agent"))))

end Controllers

/-- The notice that an unfinished task was written under the key. -/
def Notice.brings (key : Key) : Notice .task → Bool
  | .event (.applied t) => t.key == key && !t.phase.isTerminal
  | _ => false

theorem Notice.broughtBy {notice : Notice .task} {key : Key} (brings : notice.brings key = true) :
    ∃ t, notice = .event (.applied t) ∧ t.key = key ∧ t.phase.isTerminal = false := by
  cases notice with
  | lagged => cases brings
  | event e =>
    cases e with
    | deleted => cases brings
    | applied t =>
      obtain ⟨own, running⟩ := Bool.and_eq_true_iff.mp brings
      exact ⟨t, rfl, beq_iff_eq.mp own, Bool.not_eq_true' _ |>.mp running⟩

namespace System
variable {s : System} {key : Key}

/-- The key of an unfinished task is added alone, and a free worker takes it if it is the first in line. -/
theorem Reachable.taken {t : Task} {queue : WorkQueue Key}
    (past : Reachable { s with loop := .begin (.task (.event (.applied t))) })
    (own : t.key = key) (running : t.phase.isTerminal = false) (free : s.hands = [.free])
    (next : (s.queue.add key).next? = some (key, queue)) :
    Reachable { s with queue, loop := .waiting, hands := [.took key] } := by
  subst own
  have alone : (Cause.task (.event (.applied t))).others = pure [] := if_neg (Bool.eq_false_iff.mp running)
  have handled := past.handled default
  rw [alone] at handled
  have queued : Reachable { s with queue := s.queue.add t.key, loop := .waiting } := handled
  have taken := queued.step (.took _ (i := 0) (congrArg (·[0]?) free) next)
  rw [free] at taken
  exact taken

/-- However the steps of a started controller and of all others come, no unfinished task
is lost sight of. -/
theorem unfinishedAccounted {t : Task} (past : Reachable s) (started : s.Started)
    (stored : s.backend.store.get? .task key = some t) (active : t.phase.isTerminal = false) :
    Accounted s key := by
  have unfinished : t.isActive = true := by
    unfold Task.isActive
    rw [active]
    rfl
  exact (past.sound.covered key t stored unfinished).accounted past.sound started

/-- The first task is delayed. The second is in a change that is not read, then in the notice that
the loop is at, and then with the worker. -/
theorem twoAccounted :
    let s := of Controllers.attending.1 Controllers.attending.2
    let two : Key := ⟨"ns", "two"⟩
    (s.queue.ready = [] ∧ s.queue.delayed.map Delayed.key = [⟨"ns", "one"⟩] ∧
      Accounted s ⟨"ns", "one"⟩ ∧ Accounted s two) ∧
    ∃ t queue,
      let noticed := { s with tasksSeen := s.tasks.events.size, loop := .begin (.task (.event (.applied t))) }
      let taken := { noticed with queue, loop := .waiting, hands := [.took two] }
      Step s noticed ∧ Accounted noticed two ∧ queue.ready = [] ∧ Reachable taken ∧ Accounted taken two := by
  intro s two
  have lives : Controllers.Living (fun p q => q.ports = p.ports) _ _ := Controllers.attendingLives
  have past : Reachable s := (lives.reachable fun _ _ => id).1
  have idle : s.queue.ready = [] ∧ s.queue.delayed.map Delayed.key = [⟨"ns", "one"⟩] := by decide +kernel
  have first : (s.backend.store.get? .task ⟨"ns", "one"⟩).any (!·.phase.isTerminal) = true := by decide +kernel
  have second : (s.backend.store.get? .task two).any (!·.phase.isTerminal) = true := by decide +kernel
  have changed : (s.tasks.notice? s.tasksSeen).any
      (fun next => next.1.brings two && next.2 == s.tasks.events.size) = true := by decide +kernel
  have line : (s.queue.add two).next?.any (fun next => next.1 == two && next.2.ready.isEmpty) = true := by
    decide +kernel
  have waits : s.loop = .waiting := rfl
  have free : s.hands = [.free] := rfl
  clear_value s
  obtain ⟨one, stored, active⟩ := (Option.any_eq_true _ _).mp first
  obtain ⟨u, there, unfinished⟩ := (Option.any_eq_true _ _).mp second
  simp only [Bool.not_eq_true'] at active unfinished
  have started : s.Started := startedIdle waits
  refine ⟨⟨idle.1, idle.2, unfinishedAccounted past started stored active,
    unfinishedAccounted past started there unfinished⟩, ?_⟩
  obtain ⟨⟨notice, seen⟩, found, told⟩ := (Option.any_eq_true _ _).mp changed
  obtain ⟨⟨key, queue⟩, next, last⟩ := (Option.any_eq_true _ _).mp line
  simp only [Bool.and_eq_true, beq_iff_eq, List.isEmpty_iff] at told last
  obtain ⟨brings, rfl⟩ := told
  obtain ⟨rfl, empty⟩ := last
  obtain ⟨t, rfl, own, running⟩ := Notice.broughtBy brings
  have noticed : Step s _ := .taskNotice s waits found
  have taken := Reachable.taken (s := { s with tasksSeen := s.tasks.events.size }) (past.step noticed) own
    running free next
  exact ⟨t, queue, noticed, unfinishedAccounted (past.step noticed) (startedNotice rfl) there unfinished, empty,
    taken, unfinishedAccounted taken (startedIdle rfl) there unfinished⟩

end System
end Turnstile
