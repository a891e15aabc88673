import Turnstile.Proofs.Admission.Moves
/-! Reconciling a whole line at one instant, in any order. A task that starts
takes a slot and leaves the line, so what the tasks before it leave of the room
stays the same: those start that had room at first. -/
namespace Turnstile
open Admission Reconcile

def Backend.line (b : Backend) (now : Instant) (agent : Agent) : List Task :=
  Admission.line now agent.key (b.store.list .task .all)

/-- The whole line resolves to its agent, which takes its tasks, and started none of
them within its quota's window. -/
structure Lineup (now : Instant) (agent : Agent) (b : Backend) : Prop where
  resolves : ∀ t ∈ b.line now agent, ∃ resolved, resolveIn b.store t = .ok resolved ∧ resolved.agent = agent
  image : Text.isAllBlank agent.spec.image = false
  unstarted : ∀ quota, agent.spec.quota = some quota → ∀ t ∈ b.line now agent, ∀ s,
    t.status.startTime = some s → ¬ (now.shift (-((window quota).nanoseconds : Int)) ≤ s ∧ s ≤ now)

theorem Lineup.startedNone {now : Instant} {agent : Agent} {b : Backend} {t : Task}
    (lineup : Lineup now agent b) (inside : t ∈ b.line now agent)
    {quota : AgentQuota} (limit : agent.spec.quota = some quota) :
    t.startedWithin agent.key (window quota) now = false := by
  cases start : t.status.startTime with
  | none => simp [Task.startedWithin, start]
  | some s =>
    have apart := lineup.unstarted quota limit t inside s start
    unfold Task.startedWithin
    rw [start, Option.any_some, ← Bool.decide_and, decide_eq_false apart, Bool.and_false]

namespace Backend
variable {b : Backend} {now : Instant} {agent : Agent} {t q : Task} {pre post : List Task}

theorem stored (inside : t ∈ b.line now agent) : b.store.get? .task t.key = some t ∧
    t.agentKey? = some agent.key ∧ isEligible now t = true := by
  obtain ⟨listed, counted, eligible⟩ := inLine.mp inside
  rw [Store.listAll] at listed
  obtain ⟨key, found⟩ := SortedMap.memValues.mp listed
  have own : t.key = key := b.store.tasks.keyed found
  rw [own]
  exact ⟨found, counted, eligible⟩

theorem keys (b : Backend) (now : Instant) (agent : Agent) : ((b.line now agent).map Task.key).Nodup := by
  refine lineKeys ?_
  rw [Store.listAll]
  exact b.store.tasks.keysDistinct

theorem sorted (b : Backend) (now : Instant) (agent : Agent) :
    (b.line now agent).Pairwise fun a b => lineOrder a b = .lt := by
  refine lineSorted ?_
  rw [Store.listAll]
  exact b.store.tasks.keysDistinct

theorem sameKey (inside : t ∈ b.line now agent) (other : q ∈ b.line now agent) (same : q.key = t.key) :
    q = t := by
  have one := (stored inside).1
  rw [← same, (stored other).1] at one
  exact Option.some.inj one

theorem aheadBefore (inside : t ∈ b.line now agent) (other : q ∈ b.line now agent) :
    Task.aheadOf agent.key now t q = before q t := by
  obtain ⟨-, counted, eligible⟩ := stored other
  unfold Task.aheadOf
  rw [counted, eligible]
  cases order : before q t with
  | false => simp
  | true =>
    have different : q.key ≠ t.key := by
      intro same
      rw [sameKey inside other same, beforeSelf] at order
      cases order
    simp [different]

theorem aheadAt (split : b.line now agent = pre ++ t :: post) :
    aheadIn b.store now agent t = pre.length := by
  have inside : t ∈ b.line now agent := by
    rw [split]
    simp
  have inLine : (b.line now agent).countP (Task.aheadOf agent.key now t) =
      (b.store.list .task .all).countP (Task.aheadOf agent.key now t) := by
    unfold line
    rw [linePerm.countP_eq]
    unfold waiting countedAgainst
    rw [List.countP_filter, List.countP_filter]
    refine List.countP_congr fun q _ => ?_
    simp only [Task.aheadOf, Bool.and_eq_true]
    exact ⟨fun both => both.1.1, fun holds => ⟨⟨holds, holds.2.1.2⟩, holds.1⟩⟩
  have older : (b.line now agent).countP (Task.aheadOf agent.key now t) =
      (b.line now agent).countP (before · t) :=
    List.countP_congr fun q other => by rw [aheadBefore inside other]
  unfold aheadIn
  rw [aheadCount, ← inLine, older, split]
  exact countBefore (by rw [← split]; exact sorted b now agent)

def lets (b : Backend) (now : Instant) (agent : Agent) (t : Task) : Bool :=
  room b.store now agent (aheadIn b.store now agent t)

def begun (b : Backend) (now : Instant) (agent : Agent) (left : List Key) (q : Task) : Bool :=
  !left.contains q.key && b.lets now agent q

theorem begunOne {left : List Key} (split : b.line now agent = pre ++ t :: post) (fresh : t.key ∉ left)
    (p : Task → Bool) :
    (b.line now agent).countP (fun q => b.begun now agent left q && p q) =
      (b.line now agent).countP (fun q => b.begun now agent (t.key :: left) q && p q) +
        if b.lets now agent t && p t then 1 else 0 := by
  have inside : t ∈ b.line now agent := by
    rw [split]
    simp
  have distinct := keys b now agent
  rw [split, List.map_append, List.map_cons] at distinct
  obtain ⟨-, tail, across⟩ := List.nodup_append.mp distinct
  have others : ∀ q, q.key ≠ t.key →
      (b.begun now agent left q && p q) = (b.begun now agent (t.key :: left) q && p q) := by
    intro q different
    unfold begun
    rw [List.contains_cons, beq_false_of_ne different, Bool.false_or]
  have older : ∀ q ∈ pre, q.key ≠ t.key := fun q there =>
    across q.key (List.mem_map_of_mem there) t.key (List.mem_cons_self ..)
  have younger : ∀ q ∈ post, q.key ≠ t.key := by
    intro q there same
    exact (List.nodup_cons.mp tail).1 (same ▸ List.mem_map_of_mem there)
  have before : b.begun now agent (t.key :: left) t = false := by simp [begun]
  have after : b.begun now agent left t = b.lets now agent t := by simp [begun, fresh]
  rw [split, List.countP_append, List.countP_append, List.countP_cons, List.countP_cons, before, after,
    List.countP_congr fun q there => by rw [others q (older q there)],
    List.countP_congr (l := post) fun q there => by rw [others q (younger q there)]]
  simp only [Bool.false_and, Bool.false_eq_true, if_false]
  omega

structure Progress (b : Backend) (now : Instant) (agent : Agent) (left : List Key) (b' : Backend) :
    Prop where
  agents : b'.store.agents = b.store.agents
  templates : b'.store.templates = b.store.templates
  waiting : ∀ t ∈ b.line now agent, t.key ∈ left → b'.store.get? .task t.key = some t
  passed : ∀ t ∈ b.line now agent, t.key ∉ left → ∃ u, b'.store.get? .task t.key = some u ∧
    u.phase = if b.lets now agent t then .running else .queued
  others : ∀ key, key ∉ (b.line now agent).map Task.key →
    b'.store.get? .task key = b.store.get? .task key
  running : b'.store.tasks.objects.values.countP (Task.runsFor agent.key) =
    b.store.tasks.objects.values.countP (Task.runsFor agent.key) +
      (b.line now agent).countP (fun q => b.begun now agent left q && true)
  starts : ∀ quota, agent.spec.quota = some quota →
    b'.store.tasks.objects.values.countP (Task.startedWithin agent.key (window quota) now) =
      b.store.tasks.objects.values.countP (Task.startedWithin agent.key (window quota) now) +
        (b.line now agent).countP (fun q => b.begun now agent left q && true)
  ahead : ∀ t ∈ b.line now agent,
    b'.store.tasks.objects.values.countP (Task.aheadOf agent.key now t) +
        (b.line now agent).countP (fun q => b.begun now agent left q && before q t) =
      b.store.tasks.objects.values.countP (Task.aheadOf agent.key now t)

namespace Progress
variable {b' : Backend} {left : List Key} {r : Reconciler}

theorem start {order : List Key} (all : order.Perm ((b.line now agent).map Task.key)) :
    Progress b now agent order b := by
  have none : ∀ p : Task → Bool,
      (b.line now agent).countP (fun q => b.begun now agent order q && p q) = 0 := by
    intro p
    refine List.countP_eq_zero.mpr fun q inside => ?_
    have there : q.key ∈ order := all.mem_iff.mpr (List.mem_map_of_mem inside)
    simp [begun, there]
  refine ⟨rfl, rfl, fun t inside _ => (stored inside).1, ?_, fun _ _ => rfl, ?_, ?_, ?_⟩
  · exact fun t inside passed => absurd (all.mem_iff.mpr (List.mem_map_of_mem inside)) passed
  · rw [none]; rfl
  · intro quota _
    rw [none]; rfl
  · intro t _
    rw [none]; rfl

theorem aheadLeft (h : Progress b now agent (t.key :: left) b')
    (split : b.line now agent = pre ++ t :: post) :
    aheadIn b'.store now agent t + pre.countP (b.begun now agent (t.key :: left)) = pre.length := by
  have inside : t ∈ b.line now agent := by
    rw [split]
    simp
  have sorted := sorted b now agent
  rw [split] at sorted
  obtain ⟨-, tail, across⟩ := List.pairwise_append.mp sorted
  have own : b.begun now agent (t.key :: left) t = false := by simp [begun]
  have front : pre.countP (fun q => b.begun now agent (t.key :: left) q && before q t) =
      pre.countP (b.begun now agent (t.key :: left)) := by
    refine List.countP_congr fun q there => ?_
    have order := across q there t (List.mem_cons_self ..)
    simp [before, order]
  have back : post.countP (fun q => b.begun now agent (t.key :: left) q && before q t) = 0 := by
    refine List.countP_eq_zero.mpr fun q there => ?_
    rw [notBefore ((List.pairwise_cons.mp tail).1 q there)]
    simp
  have first : aheadIn b.store now agent t = pre.length := aheadAt split
  have counted := h.ahead t inside
  rw [split, List.countP_append, List.countP_cons, own, front, back] at counted
  unfold aheadIn at first ⊢
  rw [aheadCount, Store.listAll] at first ⊢
  have total := counted.trans first
  simp only [Bool.false_and, Bool.false_eq_true, if_false, Nat.add_zero] at total
  exact total

theorem takenLater (h : Progress b now agent (t.key :: left) b')
    (split : b.line now agent = pre ++ t :: post) :
    room b'.store now agent (aheadIn b'.store now agent t) =
      room b.store now agent (pre.length + post.countP (b.begun now agent (t.key :: left))) := by
  have ahead := h.aheadLeft split
  have own : b.begun now agent (t.key :: left) t = false := by simp [begun]
  have all : (b.line now agent).countP (fun q => b.begun now agent (t.key :: left) q && true) =
      pre.countP (b.begun now agent (t.key :: left)) + post.countP (b.begun now agent (t.key :: left)) := by
    rw [split, List.countP_append, List.countP_cons, own]
    simp
  rw [roomUsed h.running h.starts, all]
  congr 1
  omega

/-- The room for a task is what it was: a task behind it starts only with more room than it needs. -/
theorem sameRoom (h : Progress b now agent (t.key :: left) b') (inside : t ∈ b.line now agent) :
    room b'.store now agent (aheadIn b'.store now agent t) = b.lets now agent t := by
  obtain ⟨pre, post, split⟩ := List.append_of_mem inside
  have had : b.lets now agent t = room b.store now agent pre.length := by
    unfold lets
    rw [aheadAt split]
  rw [h.takenLater split, had]
  cases free : room b.store now agent pre.length with
  | true =>
    refine roomKept roomFewer (fun k q there takes => ?_) free
    have lets : b.lets now agent q = true := ((Bool.and_eq_true ..).mp takes).2
    have place : b.line now agent = (pre ++ t :: post.take k) ++ q :: post.drop (k + 1) := by
      obtain ⟨within, rfl⟩ := List.getElem?_eq_some_iff.mp there
      rw [split, List.append_assoc, List.cons_append, ← List.drop_eq_getElem_cons within,
        List.take_append_drop]
    have within := (List.getElem?_eq_some_iff.mp there).1
    unfold Backend.lets at lets
    rw [aheadAt place, List.length_append, List.length_cons, List.length_take,
      Nat.min_eq_left (Nat.le_of_lt within)] at lets
    exact lets
  | false =>
    rw [Bool.eq_false_iff] at free ⊢
    exact fun more => free (roomFewer (Nat.le_add_right _ _) more)

theorem step (h : Progress b now agent (t.key :: left) b') (lineup : Lineup now agent b)
    (inside : t ∈ b.line now agent) (fresh : t.key ∉ left) :
    Progress b now agent left ((r.reconcile now t.key).run now b').2 := by
  obtain ⟨-, counted, eligible⟩ := stored inside
  have there : b'.store.get? .task t.key = some t := h.waiting t inside (List.mem_cons_self ..)
  obtain ⟨resolved, found, own⟩ := lineup.resolves t inside
  rw [← resolveSame h.agents h.templates t] at found
  obtain ⟨outcome, gate⟩ := reconcileGate (r := r) there eligible
  obtain ⟨b₀, change, same, after, moves⟩ := gate.moves eligible found (by rw [own]; exact lineup.image)
  rw [own, h.sameRoom inside] at moves
  have there₀ : b₀.store.get? .task t.key = some t := by
    rw [same]
    exact there
  obtain ⟨version, written, counts⟩ := Backend.notedCount change there₀
  have moved := moves version
  have elsewhere : ∀ key, key ≠ t.key →
      ((r.reconcile now t.key).run now b').2.store.get? .task key = b'.store.get? .task key := by
    intro key other
    rw [after, Backend.notedOther there₀ other, same]
  rw [← after] at written counts
  rw [same] at counts
  obtain ⟨pre, post, split⟩ := List.append_of_mem inside
  have queued : isRunning t = false := by
    simp only [isEligible, Bool.and_eq_true, beq_iff_eq] at eligible
    simp [isRunning, eligible.1.1]
  constructor
  case agents =>
    rw [after, Backend.notedAgents, same]
    exact h.agents
  case templates =>
    rw [after, Backend.notedTemplates, same]
    exact h.templates
  case waiting =>
    intro q other waits
    have different : q.key ≠ t.key := fun same => fresh (same ▸ waits)
    rw [elsewhere q.key different]
    exact h.waiting q other (List.mem_cons_of_mem _ waits)
  case passed =>
    intro q other gone
    by_cases same : q.key = t.key
    · rw [sameKey inside other same]
      exact ⟨_, written, moved.phase⟩
    · rw [elsewhere q.key same]
      exact h.passed q other (by simp [same, gone])
  case others =>
    intro key outside
    have different : key ≠ t.key := fun same => outside (same ▸ List.mem_map_of_mem inside)
    rw [elsewhere key different]
    exact h.others key outside
  case running =>
    have count := counts (Task.runsFor agent.key)
    rw [moved.runs, show t.runsFor agent.key = false by simp [Task.runsFor, queued], h.running] at count
    rw [begunOne split fresh fun _ => true]
    simpa [Nat.add_assoc] using count
  case starts =>
    intro quota limit
    have outside := lineup.startedNone inside limit
    have count := counts (Task.startedWithin agent.key (window quota) now)
    rw [moved.startedWithin counted outside, outside, h.starts quota limit] at count
    rw [begunOne split fresh fun _ => true]
    simpa [Nat.add_assoc] using count
  case ahead =>
    intro q other
    have count := counts (Task.aheadOf agent.key now q)
    have was := h.ahead q other
    rw [moved.ahead eligible counted, aheadBefore other inside] at count
    rw [begunOne split fresh (before · q)]
    cases started : b.lets now agent t <;> cases older : before t q <;>
      simp only [started, older, Bool.not_true, Bool.not_false, Bool.and_true, Bool.and_false,
        Bool.false_eq_true, if_true, if_false] at count ⊢ <;> omega

theorem all (r : Reconciler) {order : List Key} (h : Progress b now agent order b')
    (lineup : Lineup now agent b) (distinct : order.Nodup)
    (known : ∀ key ∈ order, ∃ t ∈ b.line now agent, t.key = key) :
    Progress b now agent [] (order.foldl (fun b key => ((r.reconcile now key).run now b).2) b') := by
  induction order generalizing b' with
  | nil => exact h
  | cons key rest ih =>
    obtain ⟨t, inside, rfl⟩ := known key (List.mem_cons_self ..)
    obtain ⟨fresh, distinct⟩ := List.nodup_cons.mp distinct
    exact ih (h.step lineup inside fresh) distinct fun key later => known key (List.mem_cons_of_mem _ later)

end Progress

theorem letsAt {i : Nat} (there : (b.line now agent)[i]? = some t) :
    b.lets now agent t =
      ((capacityIn b.store agent).least (quotaIn b.store now agent).remaining).exceeds i := by
  obtain ⟨within, rfl⟩ := List.getElem?_eq_some_iff.mp there
  have place : b.line now agent =
      (b.line now agent).take i ++ (b.line now agent)[i] :: (b.line now agent).drop (i + 1) := by
    rw [← List.drop_eq_getElem_cons within, List.take_append_drop]
  unfold lets
  rw [aheadAt place, List.length_take, Nat.min_eq_left (Nat.le_of_lt within), Headroom.leastExceeds]
  rfl

def reconcileAll (r : Reconciler) (now : Instant) (order : List Key) (b : Backend) : Backend :=
  order.foldl (fun b key => ((r.reconcile now key).run now b).2) b

/-- In whatever order the line is reconciled, as many of the oldest start as there
is room for, the others stay queued, and no other task changes. -/
theorem lineAdmitted (r : Reconciler) {order : List Key} (lineup : Lineup now agent b)
    (every : order.Perm ((b.line now agent).map Task.key)) :
    (∀ t ∈ (b.line now agent).take (((capacityIn b.store agent).least
        (quotaIn b.store now agent).remaining).among (b.line now agent).length),
      ∃ u, (reconcileAll r now order b).store.get? .task t.key = some u ∧ u.phase = .running) ∧
    (∀ t ∈ (b.line now agent).drop (((capacityIn b.store agent).least
        (quotaIn b.store now agent).remaining).among (b.line now agent).length),
      ∃ u, (reconcileAll r now order b).store.get? .task t.key = some u ∧ u.phase = .queued) ∧
    (∀ key, key ∉ order →
      (reconcileAll r now order b).store.get? .task key = b.store.get? .task key) := by
  have known : ∀ key ∈ order, ∃ t ∈ b.line now agent, t.key = key :=
    fun key inside => List.mem_map.mp (every.mem_iff.mp inside)
  have done : Progress b now agent [] (reconcileAll r now order b) :=
    (Progress.start every).all r lineup (every.nodup_iff.mpr (keys b now agent)) known
  refine ⟨fun t among => ?_, fun t beyond => ?_, fun key outside => ?_⟩
  · obtain ⟨i, within, rfl⟩ := List.mem_take_iff_getElem.mp among
    have bounds := Nat.lt_min.mp within
    obtain ⟨u, found, phase⟩ := done.passed _ (List.getElem_mem bounds.2) List.not_mem_nil
    rw [letsAt (List.getElem?_eq_getElem bounds.2), (Headroom.belowAmong.mp bounds.1).1] at phase
    exact ⟨u, found, phase⟩
  · obtain ⟨i, within, rfl⟩ := List.mem_drop_iff_getElem.mp beyond
    rw [Nat.add_comm] at within
    obtain ⟨u, found, phase⟩ := done.passed _ (List.getElem_mem within) List.not_mem_nil
    rw [letsAt (List.getElem?_eq_getElem within)] at phase
    refine ⟨u, found, phase.trans (if_neg fun room => ?_)⟩
    have below := Headroom.belowAmong.mpr ⟨room, within⟩
    omega
  · exact done.others key fun inside => outside (every.mem_iff.mpr inside)

def lined (now : Instant) (agent one two : Key) : Backend :=
  [one, two].foldl (fun b key => (b.perform now (.create .task { Task.bare key agent.name with
    status := { TaskStatus.fresh with phase := some .queued } })).2)
    (Backend.empty.perform now (.create .agent (Agent.bare agent (some 1)))).2

def slot (now : Instant) (agent : Key) : Agent :=
  Collection.firstWrite (k := .agent) 1 now (Agent.bare agent (some 1))

theorem linedInOrder : (lined default ⟨"ns", "agent"⟩ ⟨"ns", "one"⟩ ⟨"ns", "two"⟩).line default
    (slot default ⟨"ns", "agent"⟩) = waiting default ⟨"ns", "agent"⟩
      ((lined default ⟨"ns", "agent"⟩ ⟨"ns", "one"⟩ ⟨"ns", "two"⟩).store.list .task .all) :=
  List.mergeSort_of_pairwise (by decide +kernel)

theorem linedUp : Lineup default (slot default ⟨"ns", "agent"⟩)
    (lined default ⟨"ns", "agent"⟩ ⟨"ns", "one"⟩ ⟨"ns", "two"⟩) where
  resolves := by
    have named : ∀ t ∈ (lined default ⟨"ns", "agent"⟩ ⟨"ns", "one"⟩ ⟨"ns", "two"⟩).line default
        (slot default ⟨"ns", "agent"⟩),
        (resolveIn (lined default ⟨"ns", "agent"⟩ ⟨"ns", "one"⟩ ⟨"ns", "two"⟩).store t).toOption.map
          (·.agent) = some (slot default ⟨"ns", "agent"⟩) := by
      rw [linedInOrder]
      decide +kernel
    intro t inside
    have agent := named t inside
    cases found : resolveIn (lined default ⟨"ns", "agent"⟩ ⟨"ns", "one"⟩ ⟨"ns", "two"⟩).store t with
    | error cause => rw [found] at agent; cases agent
    | ok resolved =>
      rw [found] at agent
      exact ⟨resolved, rfl, Option.some.inj agent⟩
  image := by decide +kernel
  unstarted quota limited := nomatch limited

theorem youngerWaits :
    ((lined default ⟨"ns", "agent"⟩ ⟨"ns", "one"⟩ ⟨"ns", "two"⟩).line default
      (slot default ⟨"ns", "agent"⟩)).map Task.key = [⟨"ns", "one"⟩, ⟨"ns", "two"⟩] ∧
    ∀ t ∈ ((lined default ⟨"ns", "agent"⟩ ⟨"ns", "one"⟩ ⟨"ns", "two"⟩).line default
        (slot default ⟨"ns", "agent"⟩)).drop 1,
      ∃ u, (reconcileAll Reconciler.bare default [⟨"ns", "two"⟩, ⟨"ns", "one"⟩]
        (lined default ⟨"ns", "agent"⟩ ⟨"ns", "one"⟩ ⟨"ns", "two"⟩)).store.get? .task t.key = some u ∧
        u.phase = .queued := by
  have keys : ((lined default ⟨"ns", "agent"⟩ ⟨"ns", "one"⟩ ⟨"ns", "two"⟩).line default
      (slot default ⟨"ns", "agent"⟩)).map Task.key = [⟨"ns", "one"⟩, ⟨"ns", "two"⟩] := by
    rw [linedInOrder]
    decide +kernel
  have room : ((capacityIn (lined default ⟨"ns", "agent"⟩ ⟨"ns", "one"⟩ ⟨"ns", "two"⟩).store
      (slot default ⟨"ns", "agent"⟩)).least (quotaIn (lined default ⟨"ns", "agent"⟩ ⟨"ns", "one"⟩
        ⟨"ns", "two"⟩).store default (slot default ⟨"ns", "agent"⟩)).remaining).among
      ((lined default ⟨"ns", "agent"⟩ ⟨"ns", "one"⟩ ⟨"ns", "two"⟩).line default
        (slot default ⟨"ns", "agent"⟩)).length = 1 := by
    rw [linedInOrder]
    decide +kernel
  have every : [⟨"ns", "two"⟩, ⟨"ns", "one"⟩].Perm ((lined default ⟨"ns", "agent"⟩ ⟨"ns", "one"⟩
      ⟨"ns", "two"⟩).line default (slot default ⟨"ns", "agent"⟩) |>.map Task.key) := by
    rw [keys]
    exact .swap ..
  have admitted := (lineAdmitted Reconciler.bare linedUp every).2.1
  rw [room] at admitted
  exact ⟨keys, admitted⟩

end Backend
end Turnstile
