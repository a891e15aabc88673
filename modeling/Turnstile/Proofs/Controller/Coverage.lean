import Turnstile.Proofs.Changes
import Turnstile.Proofs.Controller.Loop
import Turnstile.Proofs.Queue
/-! No task is forgotten. Whatever anyone writes, and in whatever order the loop,
the workers and the timers take their steps, the key of every unfinished task is
somewhere from where it comes to a worker again. -/
namespace Turnstile
open TaskController

structure System where
  backend : Backend
  queue : WorkQueue Key
  tasksSeen : Nat
  agentsSeen : Nat
  loop : Loop
  hands : List Hand

namespace System

def tasks (s : System) : Collection .task := s.backend.store.tasks

/-- What may happen next, in any order. -/
inductive Step : System → System → Prop where
  | written (s : System) (now : Instant) (call : Call) :
      Step s { s with backend := (s.backend.perform now call).2 }
  | worked (s : System) (workloads : Workloads) :
      Step s { s with backend := { s.backend with workloads } }
  | taskNotice (s : System) {notice : Notice .task} {seen : Nat} (idle : s.loop = .waiting)
      (found : s.tasks.notice? s.tasksSeen = some (notice, seen)) :
      Step s { s with tasksSeen := seen, loop := .begin (.task notice) }
  | agentNotice (s : System) {notice : Notice .agent} {seen : Nat} (idle : s.loop = .waiting)
      (found : s.backend.store.agents.notice? s.agentsSeen = some (notice, seen)) :
      Step s { s with agentsSeen := seen, loop := .begin (.agent notice) }
  | ticked (s : System) (idle : s.loop = .waiting) : Step s { s with loop := .begin .resync }
  | added (s : System) {cause : Cause} {key : Key} {keys : List Key} {asked : Bool}
      (busy : s.loop = .adding cause (key :: keys) asked) :
      Step s { s with queue := s.queue.add key, loop := .adding cause keys asked }
  | asked (s : System) {cause : Cause} (now : Instant) (busy : s.loop = .adding cause [] false) :
      Step s { s with
        backend := (cause.others.run now s.backend).2
        loop := .adding cause (cause.others.run now s.backend).1 true }
  | rested (s : System) {cause : Cause} (busy : s.loop = .adding cause [] true) :
      Step s { s with loop := .waiting }
  | took (s : System) {i : Nat} {key : Key} {queue : WorkQueue Key} (free : s.hands[i]? = some .free)
      (taken : s.queue.next? = some (key, queue)) :
      Step s { s with queue, hands := s.hands.set i (.took key) }
  | reconciled (s : System) {i : Nat} {key : Key} (r : Reconciler) (now : Instant)
      (turn : s.hands[i]? = some (.took key)) :
      Step s { s with
        backend := ((r.reconcile now key).run now s.backend).2
        hands := s.hands.set i (.reconciled key ((r.reconcile now key).run now s.backend).1) }
  | requeued (s : System) {i : Nat} {key : Key} {result : Except ReconcileError ReconcileOutcome}
      (clock : Duration) (turn : s.hands[i]? = some (.reconciled key result)) :
      Step s { s with
        queue := requeue clock key result s.queue
        hands := s.hands.set i (.requeued key) }
  | released (s : System) {i : Nat} {key : Key} (turn : s.hands[i]? = some (.requeued key)) :
      Step s { s with queue := s.queue.release key, hands := s.hands.set i .free }
  | fired (s : System) {d : Delayed Key} (delayed : d ∈ s.queue.delayed) :
      Step s { s with queue := s.queue.fire d.key }
  | expired (s : System) (clock : Duration) : Step s { s with queue := s.queue.expire clock }

def opened (backend : Backend) (workers : Nat) : System where
  backend := backend
  queue := .empty
  tasksSeen := backend.store.tasks.events.size
  agentsSeen := backend.store.agents.events.size
  loop := .begin .start
  hands := List.replicate workers .free

inductive Reachable : System → Prop where
  | opened (backend : Backend) (workers : Nat) : Reachable (opened backend workers)
  | step {s d : System} (past : Reachable s) (next : Step s d) : Reachable d

/-- Why an unfinished task comes to a worker again. -/
inductive Cover (s : System) (key : Key) : Prop where
  | kept (kept : s.queue.Keeps key)
  | owed {hand : Hand} (inside : hand ∈ s.hands) (owes : hand.Owes key)
  | unread {i : Nat} {o : Task} (later : s.tasksSeen ≤ i) (event : s.tasks.events[i]? = some (.applied o))
      (own : o.key = key)
  | lagging (behind : s.tasksSeen + Collection.retained < s.tasks.events.size)
  | handled (covers : s.loop.Covers key)

structure Sound (s : System) : Prop where
  steady : s.queue.Steady
  held : ∀ key ∈ s.queue.processing, ∃ hand ∈ s.hands, hand.key? = some key
  seen : s.tasksSeen ≤ s.tasks.events.size
  covered : ∀ key t, s.tasks.objects.get? key = some t → t.isActive = true → Cover s key

variable {s d : System} {key : Key}

theorem Cover.after (h : Cover s key) (seen : d.tasksSeen = s.tasksSeen) (grown : s.tasks.Follows d.tasks)
    (queue : s.queue.Keeps key → Cover d key)
    (hands : ∀ hand ∈ s.hands, hand.Owes key → Cover d key)
    (loop : s.loop.Covers key → Cover d key) : Cover d key := by
  cases h with
  | kept kept => exact queue kept
  | owed inside owes => exact hands _ inside owes
  | unread later event own => exact .unread (by rw [seen]; exact later) (grown.grows _ _ event) own
  | lagging behind =>
    refine .lagging ?_
    rw [seen]
    exact Nat.lt_of_lt_of_le behind grown.size
  | handled covers => exact loop covers

theorem Sound.coveredAfter {t : Task} (h : Sound s) (seen : d.tasksSeen = s.tasksSeen)
    (grown : s.tasks.Follows d.tasks) (stored : d.tasks.objects.get? key = some t)
    (active : t.isActive = true)
    (same : s.tasks.objects.get? key = some t → Cover s key → Cover d key) : Cover d key := by
  rcases grown.told key t stored with before | ⟨i, o, later, event, own⟩
  · exact same before (h.covered key t before active)
  · exact .unread (by rw [seen]; exact Nat.le_trans h.seen later) event own

theorem Sound.written (h : Sound s) (backend : Backend)
    (grown : s.tasks.Follows backend.store.tasks) : Sound { s with backend := backend } where
  steady := h.steady
  held := h.held
  seen := Nat.le_trans h.seen grown.size
  covered _ _ stored active :=
    h.coveredAfter (d := { s with backend := backend }) rfl grown stored active fun _ cover =>
      cover.after rfl grown (fun kept => .kept kept) (fun _ inside owes => .owed inside owes)
        fun covers => .handled covers

theorem Sound.queued (h : Sound s) (queue : WorkQueue Key) (steady : queue.Steady)
    (processing : ∀ key ∈ queue.processing, key ∈ s.queue.processing)
    (keeps : ∀ key, s.queue.Keeps key → queue.Keeps key) : Sound { s with queue := queue } where
  steady := steady
  held key inside := h.held key (processing key inside)
  seen := h.seen
  covered key t stored active :=
    (h.covered key t stored active).after rfl (.refl _) (fun kept => .kept (keeps key kept))
      (fun _ inside owes => .owed inside owes) fun covers => .handled covers

theorem handsSet {i : Nat} {old new hand : Hand} (turn : s.hands[i]? = some old) (inside : hand ∈ s.hands) :
    hand = old ∨ hand ∈ s.hands.set i new := by
  obtain ⟨j, within, rfl⟩ := List.mem_iff_getElem.mp inside
  by_cases same : i = j
  · subst same
    rw [List.getElem?_eq_getElem within] at turn
    exact .inl (Option.some.inj turn)
  · refine .inr (List.mem_iff_getElem.mpr ⟨j, by simpa using within, ?_⟩)
    exact List.getElem_set_ne same _

theorem setMem {i : Nat} {old new : Hand} (turn : s.hands[i]? = some old) : new ∈ s.hands.set i new := by
  obtain ⟨within, -⟩ := List.getElem?_eq_some_iff.mp turn
  exact List.mem_iff_getElem.mpr ⟨i, by simpa using within, List.getElem_set_self ..⟩

/-- A step of one worker: what it held and its key's place in the queue pass into
what it holds then, unless the task is no longer unfinished. -/
theorem Sound.turned {i : Nat} {old new : Hand} (h : Sound s) (turn : s.hands[i]? = some old)
    (backend : Backend) (queue : WorkQueue Key) (grown : s.tasks.Follows backend.store.tasks)
    (steady : queue.Steady)
    (held : ∀ key ∈ queue.processing, new.key? = some key ∨
      (key ∈ s.queue.processing ∧ old.key? ≠ some key))
    (keeps : ∀ key, s.queue.Keeps key → queue.Keeps key ∨ new.Owes key)
    (owes : ∀ key t, backend.store.tasks.objects.get? key = some t → t.isActive = true →
      old.Owes key → queue.Keeps key ∨ new.Owes key) :
    Sound { s with backend := backend, queue := queue, hands := s.hands.set i new } where
  steady := steady
  held key inside := by
    rcases held key inside with now | ⟨before, other⟩
    · exact ⟨new, setMem turn, now⟩
    · obtain ⟨hand, there, own⟩ := h.held key before
      rcases handsSet turn there with rfl | still
      · exact absurd own other
      · exact ⟨hand, still, own⟩
  seen := Nat.le_trans h.seen grown.size
  covered key t stored active := by
    have either : queue.Keeps key ∨ new.Owes key →
        Cover { s with backend := backend, queue := queue, hands := s.hands.set i new } key := by
      rintro (kept | owed)
      · exact .kept kept
      · exact .owed (setMem turn) owed
    refine h.coveredAfter rfl grown stored active fun before cover => ?_
    refine cover.after rfl grown (fun kept => either (keeps key kept)) (fun hand there owed => ?_)
      fun covers => .handled covers
    rcases handsSet turn there with rfl | still
    · exact either (owes key t stored active owed)
    · exact .owed still owed

theorem Sound.looped (h : Sound s) (queue : WorkQueue Key) (loop : Loop) (steady : queue.Steady)
    (processing : queue.processing = s.queue.processing)
    (keeps : ∀ key, s.queue.Keeps key → queue.Keeps key)
    (covers : ∀ key t, s.tasks.objects.get? key = some t → t.isActive = true → s.loop.Covers key →
      queue.Keeps key ∨ loop.Covers key) : Sound { s with queue := queue, loop := loop } where
  steady := steady
  held key inside := h.held key (by rw [← processing]; exact inside)
  seen := h.seen
  covered key t stored active := by
    refine (h.covered key t stored active).after rfl (.refl _) (fun kept => .kept (keeps key kept))
      (fun _ there owes => .owed there owes) fun covered => ?_
    rcases covers key t stored active covered with kept | still
    · exact .kept kept
    · exact .handled still

theorem Sound.noticed {notice : Notice .task} {seen : Nat} (h : Sound s) (idle : s.loop = .waiting)
    (found : s.tasks.notice? s.tasksSeen = some (notice, seen)) :
    Sound { s with tasksSeen := seen, loop := .begin (.task notice) } := by
  unfold Collection.notice? at found
  split at found
  · obtain ⟨lost, place⟩ := Prod.mk.inj (Option.some.inj found)
    have within : seen ≤ s.tasks.events.size := by
      rw [← place]
      exact Nat.sub_le _ _
    subst lost
    -- the lost changes are made good by listing everything
    exact ⟨h.steady, h.held, within, fun key t stored active => .handled (.inl rfl)⟩
  · rename_i caught
    obtain ⟨e, event, same⟩ := Option.map_eq_some_iff.mp found
    cases same
    obtain ⟨within, -⟩ := Array.getElem?_eq_some_iff.mp event
    refine ⟨h.steady, h.held, within, fun key t stored active => ?_⟩
    cases h.covered key t stored active with
    | kept kept => exact .kept kept
    | owed there owes => exact .owed there owes
    | @unread i o later there own =>
      rcases Nat.eq_or_lt_of_le later with rfl | after
      · rw [there] at event
        cases event
        exact .handled ⟨rfl, List.mem_singleton.mpr own.symm⟩
      · exact .unread after there own
    | lagging behind => exact absurd behind caught
    | handled covers =>
      rw [idle] at covers
      exact covers.elim

theorem unfinishedAll {now : Instant} {b : Backend} {t : Task}
    (stored : b.store.tasks.objects.get? key = some t) (active : t.isActive = true) :
    key ∈ (unfinished.run now b).1 := by
  have own : t.key = key := b.store.tasks.keyed stored
  have listed : t ∈ b.store.list .task .all := by
    rw [Store.listAll]
    exact SortedMap.memValues.mpr ⟨key, stored⟩
  change key ∈ keysOf ((b.store.list .task .all).filter Task.isActive)
  rw [← own]
  exact List.mem_map_of_mem (List.mem_filter.mpr ⟨listed, active⟩)

theorem Sound.asked {cause : Cause} (h : Sound s) (now : Instant) (busy : s.loop = .adding cause [] false) :
    Sound { s with
      backend := (cause.others.run now s.backend).2
      loop := .adding cause (cause.others.run now s.backend).1 true } := by
  have written := h.written _ (cause.others.runFollows now s.backend)
  refine written.looped s.queue _ h.steady rfl (fun _ => id) fun key t stored active covers => .inr ?_
  change s.loop.Covers key at covers
  rw [busy] at covers
  cases cause with
  | start => exact .inr (unfinishedAll stored active)
  | agent | resync => exact covers.elim
  | task notice =>
    cases notice with
    | lagged => exact .inr (unfinishedAll stored active)
    | event e => exact nomatch covers.2

theorem requeueKeeps {clock : Duration} {result : Except ReconcileError ReconcileOutcome}
    {queue : WorkQueue Key} {other : Key} (kept : queue.Keeps other) :
    (requeue clock key result queue).Keeps other := by
  unfold requeue
  split
  · exact kept
  · exact WorkQueue.addAfterKeeps kept
  · exact WorkQueue.addAfterKeeps kept

theorem requeueAdded {clock : Duration} {result : Except ReconcileError ReconcileOutcome}
    {queue : WorkQueue Key} (steady : queue.Steady) (again : result ≠ .ok .done) :
    (requeue clock key result queue).Keeps key := by
  unfold requeue
  split
  · exact absurd rfl again
  · exact WorkQueue.addAfterAdded steady.running
  · exact WorkQueue.addAfterAdded steady.running

theorem requeueProcessing {clock : Duration} {result : Except ReconcileError ReconcileOutcome}
    {queue : WorkQueue Key} : (requeue clock key result queue).processing = queue.processing := by
  unfold requeue
  split
  · rfl
  · exact WorkQueue.addAfterProcessing
  · exact WorkQueue.addAfterProcessing

theorem requeueSteady {clock : Duration} {result : Except ReconcileError ReconcileOutcome}
    {queue : WorkQueue Key} (steady : queue.Steady) : (requeue clock key result queue).Steady := by
  unfold requeue
  split
  · exact steady
  · exact WorkQueue.addAfterSteady steady
  · exact WorkQueue.addAfterSteady steady

theorem heldStill {old new : Hand} (same : new.key? = old.key?) :
    ∀ key ∈ s.queue.processing, new.key? = some key ∨
      (key ∈ s.queue.processing ∧ old.key? ≠ some key) := by
  intro key inside
  by_cases own : old.key? = some key
  · exact .inl (same.trans own)
  · exact .inr ⟨inside, own⟩

theorem Sound.agentsNoticed {notice : Notice .agent} (h : Sound s) (idle : s.loop = .waiting) (seen : Nat) :
    Sound { s with agentsSeen := seen, loop := .begin (.agent notice) } where
  steady := h.steady
  held := h.held
  seen := h.seen
  covered key t stored active := by
    cases h.covered key t stored active with
    | kept kept => exact .kept kept
    | owed there owes => exact .owed there owes
    | unread later event own => exact .unread later event own
    | lagging behind => exact .lagging behind
    | handled covers =>
      rw [idle] at covers
      exact covers.elim

theorem Sound.ticked (h : Sound s) (idle : s.loop = .waiting) :
    Sound { s with loop := .begin .resync } :=
  h.looped s.queue _ h.steady rfl (fun _ => id) fun _ _ _ _ covers => by
    rw [idle] at covers
    exact covers.elim

theorem Sound.added {cause : Cause} {keys : List Key} {asked : Bool} (h : Sound s)
    (busy : s.loop = .adding cause (key :: keys) asked) :
    Sound { s with queue := s.queue.add key, loop := .adding cause keys asked } := by
  refine h.looped _ _ (WorkQueue.addSteady h.steady) WorkQueue.addProcessing
    (fun _ => WorkQueue.addKeeps) fun other t _ _ covers => ?_
  rw [busy] at covers
  rcases Loop.coversRest covers with rfl | still
  · exact .inl (.inl (WorkQueue.addDirty h.steady.running))
  · exact .inr still

theorem Sound.rested {cause : Cause} (h : Sound s) (busy : s.loop = .adding cause [] true) :
    Sound { s with loop := .waiting } := by
  refine h.looped s.queue _ h.steady rfl (fun _ => id) fun other t _ _ covers => ?_
  rw [busy] at covers
  exact absurd covers Loop.coversNothing

/-- The worker owes the key that it takes out of the line. -/
theorem Sound.took {i : Nat} {queue : WorkQueue Key} (h : Sound s) (free : s.hands[i]? = some .free)
    (taken : s.queue.next? = some (key, queue)) :
    Sound { s with queue, hands := s.hands.set i (.took key) } := by
  obtain ⟨rest, line, same⟩ := WorkQueue.nextTakes taken
  refine h.turned free s.backend queue (.refl _) (WorkQueue.nextSteady taken h.steady) ?held ?keeps
    fun _ _ _ _ owes => owes.elim
  case held =>
    intro other inside
    rw [same] at inside
    rcases WorkQueue.holdMem.mp inside with rfl | before
    · exact .inl rfl
    · exact .inr ⟨before, nofun⟩
  case keeps =>
    intro other kept
    rcases WorkQueue.nextKeeps taken kept with rfl | still
    · exact .inr rfl
    · exact .inl still

/-- What it owes is paid by a reconcile that is done: its task has ended or is gone. -/
theorem Sound.reconciled {i : Nat} (h : Sound s) (r : Reconciler) (now : Instant)
    (turn : s.hands[i]? = some (.took key)) :
    Sound { s with
      backend := ((r.reconcile now key).run now s.backend).2
      hands := s.hands.set i (.reconciled key ((r.reconcile now key).run now s.backend).1) } := by
  refine h.turned turn _ s.queue ((r.reconcile now key).runFollows now s.backend) h.steady
    (heldStill rfl) (fun _ => .inl) ?_
  intro other t stored active owes
  refine .inr ⟨owes, fun done => ?_⟩
  cases owes
  have ended := Reconcile.doneEnds done stored
  unfold Task.isActive at active
  rw [ended] at active
  cases active

/-- It is paid else by the delay after which the key is added again. -/
theorem Sound.requeued {i : Nat} {result : Except ReconcileError ReconcileOutcome} (h : Sound s)
    (clock : Duration) (turn : s.hands[i]? = some (.reconciled key result)) :
    Sound { s with
      queue := requeue clock key result s.queue
      hands := s.hands.set i (.requeued key) } := by
  refine h.turned turn s.backend _ (.refl _) (requeueSteady h.steady) ?_
    (fun _ kept => .inl (requeueKeeps kept)) ?_
  · rw [requeueProcessing]
    exact heldStill rfl
  · intro other t stored active owes
    obtain ⟨rfl, again⟩ := owes
    exact .inl (requeueAdded h.steady again)

theorem Sound.released {i : Nat} (h : Sound s) (turn : s.hands[i]? = some (.requeued key)) :
    Sound { s with queue := s.queue.release key, hands := s.hands.set i .free } := by
  refine h.turned turn s.backend _ (.refl _) (WorkQueue.releaseSteady h.steady) ?_
    (fun _ kept => .inl (WorkQueue.releaseKeeps kept)) fun _ _ _ _ owes => owes.elim
  intro other inside
  obtain ⟨before, different⟩ := WorkQueue.releaseProcessing.mp inside
  exact .inr ⟨before, fun own => different (Option.some.inj own).symm⟩

theorem Step.sound (step : Step s d) (h : Sound s) : Sound d := by
  cases step with
  | written now call => exact h.written _ (s.backend.performTasks now call).follows
  | worked workloads => exact h.written _ (.refl _)
  | taskNotice idle found => exact h.noticed idle found
  | agentNotice idle found => exact h.agentsNoticed idle _
  | ticked idle => exact h.ticked idle
  | added busy => exact h.added busy
  | asked now busy => exact h.asked now busy
  | rested busy => exact h.rested busy
  | took free taken => exact h.took free taken
  | reconciled r now turn => exact h.reconciled r now turn
  | requeued clock turn => exact h.requeued clock turn
  | released turn => exact h.released turn
  | fired delayed =>
    exact h.queued _ (WorkQueue.fireSteady h.steady) (by rw [WorkQueue.fireProcessing]; exact fun _ => id)
      fun _ => WorkQueue.fireKeeps h.steady
  | expired clock =>
    exact h.queued _ (WorkQueue.expireSteady h.steady)
      (by rw [WorkQueue.expireProcessing]; exact fun _ => id) fun _ => WorkQueue.expireKeeps h.steady

theorem openedSound (backend : Backend) (workers : Nat) : Sound (opened backend workers) where
  steady := ⟨rfl, nofun⟩
  held := nofun
  seen := Nat.le_refl _
  covered _ _ _ _ := .handled (.inl rfl)

theorem Reachable.sound (past : Reachable s) : Sound s := by
  induction past with
  | opened backend workers => exact openedSound backend workers
  | step _ next ih => exact next.sound ih

/-- The first look at the tasks is over. -/
def Started (s : System) : Prop := ∀ keys asked, s.loop ≠ .adding .start keys asked

theorem startedIdle (idle : s.loop = .waiting) : s.Started := by
  intro keys asked busy
  cases idle.symm.trans busy

theorem startedNotice {notice : Notice .task} {keys : List Key} {asked : Bool}
    (handles : s.loop = .adding (.task notice) keys asked) : s.Started := by
  intro others again busy
  cases handles.symm.trans busy

/-- Where a key is from where it comes to a worker: in the queue or with a worker, delayed,
in a change or behind changes that the loop has not read, or in a notice that it is at. -/
inductive Accounted (s : System) (key : Key) : Prop where
  | queued (inside : key ∈ s.queue.ready)
  | held {hand : Hand} (inside : hand ∈ s.hands) (own : hand.key? = some key)
  | delayed (inside : key ∈ s.queue.delayed.map Delayed.key)
  | unread {i : Nat} {o : Task} (later : s.tasksSeen ≤ i)
      (kept : s.tasks.events.size ≤ i + Collection.retained)
      (event : s.tasks.events[i]? = some (.applied o)) (own : o.key = key)
  | lagging (behind : s.tasksSeen + Collection.retained < s.tasks.events.size)
  | handling {notice : Notice .task} {keys : List Key} {asked : Bool}
      (busy : s.loop = .adding (.task notice) keys asked) (covers : s.loop.Covers key)

theorem Cover.accounted (h : Cover s key) (sound : Sound s) (started : s.Started) : Accounted s key := by
  cases h with
  | kept kept =>
    rcases kept with dirty | delayed
    · rcases sound.steady.placed key dirty with ready | processing
      · exact .queued ready
      · obtain ⟨hand, inside, own⟩ := sound.held key processing
        exact .held inside own
    · exact .delayed delayed
  | @owed hand inside owes =>
    refine .held inside ?_
    cases hand with
    | took held => exact congrArg some owes
    | reconciled held result => exact congrArg some owes.1
    | free | requeued => exact owes.elim
  | @unread i o later event own =>
    rcases Nat.lt_or_ge (s.tasksSeen + Collection.retained) s.tasks.events.size with behind | caught
    · exact .lagging behind
    · exact .unread later (Nat.le_trans caught (Nat.add_le_add_right later _)) event own
  | lagging behind => exact .lagging behind
  | handled covers =>
    cases busy : s.loop with
    | waiting =>
      rw [busy] at covers
      exact covers.elim
    | adding cause keys asked =>
      cases cause with
      | start => exact absurd busy (started keys asked)
      | task notice => exact .handling busy covers
      | agent | resync =>
        rw [busy] at covers
        exact covers.elim

end System
end Turnstile
