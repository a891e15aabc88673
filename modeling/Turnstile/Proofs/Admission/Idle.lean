import Turnstile.Proofs.Admission.Line
import Turnstile.Proofs.Reconcile.Rounds
/-! Whether a free slot is taken. A task that is eligible keeps its place in line, also
one that nothing resolves any more; so a slot is taken once those before a task that
could start leave it room. -/
namespace Turnstile
open Admission Reconcile

structure Calm (now : Instant) (q u : Task) : Prop where
  key : u.key = q.key
  idle : u.phase ≠ .running
  startTime : u.status.startTime = q.status.startTime
  before : before u = before q
  eligible : isEligible now u = true → isEligible now q = true

namespace Calm
variable {now : Instant} {q u t : Task} {agent : Key}

theorem runs (calm : Calm now q u) : u.runsFor agent = false := by
  unfold Task.runsFor isRunning
  rw [beq_false_of_ne calm.idle, Bool.false_and]

theorem startedWithin {window : Duration} (calm : Calm now q u) (counted : q.agentKey? = some agent)
    (started : u.startedWithin agent window now = true) : q.startedWithin agent window now = true := by
  unfold Task.startedWithin at started ⊢
  rw [calm.startTime] at started
  rw [counted, beq_self_eq_true, Bool.true_and]
  exact (Bool.and_eq_true_iff.mp started).2

theorem ahead (calm : Calm now q u) (counted : q.agentKey? = some agent)
    (ahead : Task.aheadOf agent now t u = true) : Task.aheadOf agent now t q = true := by
  unfold Task.aheadOf at ahead ⊢
  rw [calm.key, calm.before] at ahead
  simp only [Bool.and_eq_true] at ahead ⊢
  exact ⟨beq_iff_eq.mpr counted, ⟨ahead.2.1.1, calm.eligible ahead.2.1.2⟩, ahead.2.2⟩

end Calm

namespace Reconcile
variable {r : Reconciler} {now : Instant} {b after : Backend} {q : Task} {key : Key}
  {change : TaskStatus → TaskStatus} {w : Workloads}

theorem Change.startsOrCalm (write : Change r now b q change w) (queued : q.phase = .queued)
    (version : UInt64) :
    (q.withStatus version (q.changed change)).phase = .running ∨
    Calm now q (q.withStatus version (q.changed change)) := by
  have sooner : ∀ {u : Task}, u.stopRequested = q.stopRequested →
      u.status.retryAfter = q.status.retryAfter → isEligible now u = true → isEligible now q = true := by
    intro u stop backoff eligible
    simp only [isEligible, Bool.and_eq_true, beq_iff_eq] at eligible ⊢
    rw [stop, backoff] at eligible
    exact ⟨⟨queued, eligible.1.2⟩, eligible.2⟩
  have waits : Phase.queued ≠ .running := by decide
  have ends : Phase.completed ≠ .running := by decide
  cases write with
  | started => exact .inl rfl
  | blocked active idle => exact .inr ⟨rfl, idle, rfl, rfl, sooner rfl rfl⟩
  | queued => exact .inr ⟨rfl, waits, rfl, rfl, sooner rfl rfl⟩
  | stopped => exact .inr ⟨rfl, ends, rfl, rfl, fun eligible => absurd eligible Bool.false_ne_true⟩
  | completed running | retried running | failed running =>
    rw [queued] at running
    cases running

theorem Changed.startsOrFewer (changed : Changed r now b key after)
    (stored : b.store.get? .task key = some q) (queued : q.phase = .queued) :
    after.phase? key = some .running ∨
    ∀ p : Task → Bool, (∀ u, Calm now q u → p u = true → p q = true) →
      after.store.tasks.objects.values.countP p ≤ b.store.tasks.objects.values.countP p := by
  rcases changed with ⟨same, -⟩ | ⟨task, change, there, write, same⟩
  · exact .inr fun p _ => Nat.le_of_eq (by rw [same])
  · rw [stored] at there
    cases there
    have own : q.key = key := b.store.tasks.keyed stored
    subst own
    obtain ⟨version, written, counts⟩ := Backend.notedCount change stored
    rw [← same] at written counts
    rcases write.startsOrCalm queued version with runs | calm
    · refine .inl ?_
      unfold Backend.phase?
      rw [written, Option.map_some, runs]
    · refine .inr fun p holds => ?_
      have count := counts p
      by_cases after : p (q.withStatus version (q.changed change)) = true
      · rw [if_pos after, if_pos (holds _ calm after)] at count
        omega
      · rw [if_neg after] at count
        omega

end Reconcile

namespace Backend

def queued (b : Backend) (agent : Key) : List Task :=
  (countedAgainst agent (b.store.list .task .all)).filter fun t => t.phase == .queued

def resolves (b : Backend) (agent : Agent) (t : Task) : Bool :=
  match resolveIn b.store t with
  | .ok resolved => decide (resolved.agent = agent)
  | .error _ => false

structure Held (b : Backend) (now : Instant) (agent : Agent) (t : Task) (left : List Key)
    (b' : Backend) : Prop where
  agents : b'.store.agents = b.store.agents
  templates : b'.store.templates = b.store.templates
  waiting : ∀ key ∈ left, b'.store.get? .task key = b.store.get? .task key
  running : b'.store.tasks.objects.values.countP (Task.runsFor agent.key) ≤
    b.store.tasks.objects.values.countP (Task.runsFor agent.key)
  starts : ∀ quota, agent.spec.quota = some quota →
    b'.store.tasks.objects.values.countP (Task.startedWithin agent.key (window quota) now) ≤
      b.store.tasks.objects.values.countP (Task.startedWithin agent.key (window quota) now)
  ahead : b'.store.tasks.objects.values.countP (Task.aheadOf agent.key now t) ≤
    b.store.tasks.objects.values.countP (Task.aheadOf agent.key now t)

variable {b b' : Backend} {now : Instant} {agent : Agent} {t q : Task} {key : Key} {left order : List Key}

theorem queuedStored (inside : q ∈ b.queued agent.key) :
    b.store.get? .task q.key = some q ∧ q.agentKey? = some agent.key ∧ q.phase = .queued := by
  unfold queued countedAgainst at inside
  rw [List.mem_filter, List.mem_filter, beq_iff_eq, beq_iff_eq, Store.listAll] at inside
  obtain ⟨⟨listed, counted⟩, queued⟩ := inside
  obtain ⟨key, found⟩ := SortedMap.memValues.mp listed
  have own : q.key = key := b.store.tasks.keyed found
  rw [own]
  exact ⟨found, counted, queued⟩

theorem lineQueued (inside : t ∈ b.line now agent) : t ∈ b.queued agent.key := by
  obtain ⟨listed, counted, eligible⟩ := inLine.mp inside
  simp only [isEligible, Bool.and_eq_true] at eligible
  exact List.mem_filter.mpr ⟨List.mem_filter.mpr ⟨listed, beq_iff_eq.mpr counted⟩, eligible.1.1⟩

namespace Held
variable {r : Reconciler}

theorem step (h : Held b now agent t (q.key :: left) b') (inside : q ∈ b.queued agent.key)
    (fresh : q.key ∉ left) :
    ((r.reconcile now q.key).run now b').2.phase? q.key = some .running ∨
    Held b now agent t left ((r.reconcile now q.key).run now b').2 := by
  obtain ⟨stored, counted, queued⟩ := queuedStored inside
  have changed := reconcileChanged r now b' q.key
  have there : b'.store.get? .task q.key = some q := by
    rw [h.waiting _ (List.mem_cons_self ..)]
    exact stored
  rcases changed.startsOrFewer there queued with runs | fewer
  · exact .inl runs
  · refine .inr ⟨?_, ?_, fun key waits => ?_, ?_, fun quota limit => ?_, ?_⟩
    · rw [changed.agents]
      exact h.agents
    · rw [changed.templates]
      exact h.templates
    · rw [changed.others fun same => fresh (same ▸ waits)]
      exact h.waiting key (List.mem_cons_of_mem _ waits)
    · refine Nat.le_trans (fewer _ fun u calm runs => ?_) h.running
      rw [calm.runs] at runs
      cases runs
    · exact Nat.le_trans (fewer _ fun u calm => calm.startedWithin counted) (h.starts quota limit)
    · exact Nat.le_trans (fewer _ fun u calm => calm.ahead counted) h.ahead

theorem taken (h : Held b now agent t left b') (own : t.key ∈ left) (inside : t ∈ b.line now agent)
    (resolves : b.resolves agent t = true) (image : Text.isAllBlank agent.spec.image = false)
    (free : b.lets now agent t = true) :
    ((r.reconcile now t.key).run now b').2.phase? t.key = some .running := by
  obtain ⟨stored, -, eligible⟩ := stored inside
  have there : b'.store.get? .task t.key = some t := by
    rw [h.waiting _ own]
    exact stored
  unfold Backend.resolves at resolves
  split at resolves
  · rename_i resolved found
    have same := of_decide_eq_true resolves
    subst same
    rw [← resolveSame h.agents h.templates t] at found
    obtain ⟨outcome, gate⟩ := reconcileGate (r := r) there eligible
    obtain ⟨b₀, change, same, after, moves⟩ := gate.moves eligible found image
    have ahead : aheadIn b'.store now resolved.agent t ≤ aheadIn b.store now resolved.agent t := by
      unfold aheadIn
      rw [aheadCount, aheadCount, Store.listAll, Store.listAll]
      exact h.ahead
    rw [roomEased h.running h.starts (roomFewer ahead free)] at moves
    have there₀ : b₀.store.get? .task t.key = some t := by
      rw [same]
      exact there
    obtain ⟨version, written, -⟩ := notedCount change there₀
    rw [← after] at written
    unfold phase?
    rw [written, Option.map_some, (moves version).phase]
    rfl
  · cases resolves

end Held

theorem keptLater {r : Reconciler} (apart : key ∉ order) :
    (reconcileAll r now order b).phase? key = b.phase? key := by
  induction order generalizing b with
  | nil => rfl
  | cons next rest ih =>
    refine (ih fun later => apart (List.mem_cons_of_mem _ later)).trans ?_
    have different : key ≠ next := fun same => apart (List.mem_cons.mpr (.inl same))
    unfold phase?
    rw [(reconcileChanged r now b next).others different]

theorem Held.someStarts {r : Reconciler} (h : Held b now agent t order b') (distinct : order.Nodup)
    (known : ∀ key ∈ order, ∃ q ∈ b.queued agent.key, q.key = key)
    (own : t.key ∈ order) (inside : t ∈ b.line now agent) (resolves : b.resolves agent t = true)
    (image : Text.isAllBlank agent.spec.image = false) (free : b.lets now agent t = true) :
    ∃ key ∈ order, (reconcileAll r now order b').phase? key = some .running := by
  induction order generalizing b' with
  | nil => exact absurd own List.not_mem_nil
  | cons next rest ih =>
    obtain ⟨q, queued, rfl⟩ := known next (List.mem_cons_self ..)
    obtain ⟨fresh, distinct⟩ := List.nodup_cons.mp distinct
    -- one that runs is not reconciled again, so it runs at the end
    have started : ((r.reconcile now q.key).run now b').2.phase? q.key = some .running →
        ∃ key ∈ q.key :: rest, (reconcileAll r now (q.key :: rest) b').phase? key = some .running :=
      fun runs => ⟨q.key, List.mem_cons_self .., (keptLater fresh).trans runs⟩
    by_cases mine : t.key = q.key
    · exact started (mine ▸ h.taken (List.mem_cons.mpr (.inl mine)) inside resolves image free)
    · rcases h.step (r := r) queued fresh with runs | still
      · exact started runs
      · obtain ⟨key, later, runs⟩ := ih still distinct (fun key later => known key (List.mem_cons_of_mem _ later))
          ((List.mem_cons.mp own).resolve_left mine)
        exact ⟨key, List.mem_cons_of_mem _ later, runs⟩

theorem firstResolved (inside : t ∈ b.line now agent) (resolves : b.resolves agent t = true)
    (free : room b.store now agent
      ((b.line now agent).countP fun q => !b.resolves agent q && before q t) = true) :
    ∃ first ∈ b.line now agent, b.resolves agent first = true ∧ b.lets now agent first = true := by
  obtain ⟨first, found⟩ : ∃ first, (b.line now agent).find? (b.resolves agent) = some first := by
    refine Option.isSome_iff_exists.mp (List.find?_isSome.mpr ⟨t, inside, resolves⟩)
  obtain ⟨ready, pre, post, split, stuck⟩ := List.find?_eq_some_iff_append.mp found
  refine ⟨first, List.mem_of_find?_eq_some found, ready, ?_⟩
  have sorted := sorted b now agent
  rw [split] at sorted
  have across := (List.pairwise_append.mp sorted).2.2
  -- all before the first are before the other one too, so they are among those it counts
  have behind : t ∈ first :: post := by
    rw [split] at inside
    rcases List.mem_append.mp inside with early | late
    · have not := stuck t early
      rw [resolves] at not
      cases not
    · exact late
  have counted : pre.countP (fun q => !b.resolves agent q && before q t) = pre.length := by
    refine List.countP_eq_length.mpr fun q early => ?_
    have order := across q early t behind
    simp [stuck q early, before, order]
  unfold lets
  rw [aheadAt split]
  refine roomFewer ?_ free
  rw [split, List.countP_append, counted]
  exact Nat.le_add_right ..

/-- A task that resolves to the agent, and an agent that has room for one more than the
tasks before it that do not: one of the queued tasks starts, in whatever order they are
reconciled. -/
theorem freeSlotTaken (r : Reconciler) (image : Text.isAllBlank agent.spec.image = false)
    (every : order.Perm ((b.queued agent.key).map Task.key))
    (inside : t ∈ b.line now agent) (resolves : b.resolves agent t = true)
    (free : room b.store now agent
      ((b.line now agent).countP fun q => !b.resolves agent q && before q t) = true) :
    ∃ key ∈ order, (reconcileAll r now order b).phase? key = some .running := by
  obtain ⟨first, among, ready, lets⟩ := firstResolved inside resolves free
  have start : Held b now agent first order b :=
    ⟨rfl, rfl, fun _ _ => rfl, Nat.le_refl _, fun _ _ => Nat.le_refl _, Nat.le_refl _⟩
  have distinct : ((b.queued agent.key).map Task.key).Nodup := by
    have tasks : (b.queued agent.key).Sublist (b.store.list .task .all) :=
      List.filter_sublist.trans List.filter_sublist
    refine (tasks.map Task.key).nodup ?_
    rw [Store.listAll]
    exact b.store.tasks.keysDistinct
  exact start.someStarts (every.nodup_iff.mpr distinct)
    (fun key there => List.mem_map.mp (every.mem_iff.mp there))
    (every.mem_iff.mpr (List.mem_map_of_mem (lineQueued among))) among ready image lets

def agentAt (b : Backend) (key : Key) : Agent := (b.store.get? .agent key).getD (Agent.bare key none)

theorem foundInLine (key : Key) (found : (b.store.get? .task key).any (fun t => isEligible now t &&
      (t.agentKey? == some agent.key && b.resolves agent t)) = true) :
    ∃ t ∈ b.line now agent, b.resolves agent t = true := by
  cases stored : b.store.get? .task key with
  | none =>
    rw [stored] at found
    cases found
  | some t =>
    rw [stored] at found
    simp only [Option.any_some, Bool.and_eq_true, beq_iff_eq] at found
    refine ⟨t, inLine.mpr ⟨?_, found.2.1, found.1⟩, found.2.2⟩
    rw [Store.listAll]
    exact SortedMap.memValues.mpr ⟨key, stored⟩

def orphaned : Backend :=
  let plain := Task.bare ⟨"ns", "older"⟩ "agent"
  let made := [Call.create .agent (Agent.bare ⟨"ns", "agent"⟩ (some 1)),
    .create .template ⟨.ofKey ⟨"ns", "template"⟩, ⟨none, none, [], []⟩⟩,
    .create .task (Task.bare ⟨"ns", "running"⟩ "agent"),
    .create .task { plain with spec := { plain.spec with templateRef := some ⟨"template", none⟩ } },
    .create .task (Task.bare ⟨"ns", "younger"⟩ "agent")].foldl (fun b c => (b.perform default c).2) empty
  [Call.delete .template ⟨"ns", "template"⟩, .delete .task ⟨"ns", "running"⟩].foldl
    (fun b c => (b.perform default c).2)
    (reconcileAll .bare default [⟨"ns", "running"⟩, ⟨"ns", "older"⟩, ⟨"ns", "younger"⟩] made)

def orphanedWithTwo : Backend :=
  (orphaned.perform default (.update .agent (Agent.bare ⟨"ns", "agent"⟩ (some 2)))).2

theorem secondSlotTaken :
    ∃ key ∈ [(⟨"ns", "younger"⟩ : Key), ⟨"ns", "older"⟩],
      (reconcileAll .bare default [⟨"ns", "younger"⟩, ⟨"ns", "older"⟩] orphanedWithTwo).phase? key =
        some .running := by
  obtain ⟨t, inside, resolves⟩ : ∃ t ∈ orphanedWithTwo.line default (orphanedWithTwo.agentAt ⟨"ns", "agent"⟩),
      orphanedWithTwo.resolves (orphanedWithTwo.agentAt ⟨"ns", "agent"⟩) t = true := by
    refine foundInLine ⟨"ns", "younger"⟩ ?_
    decide +kernel
  have keys : (orphanedWithTwo.queued (orphanedWithTwo.agentAt ⟨"ns", "agent"⟩).key).map Task.key =
      [⟨"ns", "older"⟩, ⟨"ns", "younger"⟩] := by decide +kernel
  have few : (orphanedWithTwo.line default (orphanedWithTwo.agentAt ⟨"ns", "agent"⟩)).countP
      (fun q => !orphanedWithTwo.resolves (orphanedWithTwo.agentAt ⟨"ns", "agent"⟩) q && before q t) ≤ 1 := by
    refine Nat.le_trans (List.countP_mono_left fun q _ both => (Bool.and_eq_true_iff.mp both).1) ?_
    unfold line
    rw [linePerm.countP_eq]
    decide +kernel
  have free : room orphanedWithTwo.store default (orphanedWithTwo.agentAt ⟨"ns", "agent"⟩) 1 = true := by
    decide +kernel
  exact freeSlotTaken .bare (by decide +kernel) (by rw [keys]; exact .swap ..) inside resolves
    (roomFewer few free)

/-- A slot is free and the younger task could take it, but the older one is counted
before it, whatever becomes of that one. -/
theorem freeSlotLeft : ¬ ∀ (r : Reconciler) (b : Backend) (now : Instant) (agent : Agent) (t : Task)
    (order : List Key), Text.isAllBlank agent.spec.image = false →
    order.Perm ((b.queued agent.key).map Task.key) → t ∈ b.line now agent →
    b.resolves agent t = true → room b.store now agent 0 = true →
    ∃ key ∈ order, (reconcileAll r now order b).phase? key = some .running := by
  intro claim
  obtain ⟨t, inside, resolves⟩ : ∃ t ∈ orphaned.line default (orphaned.agentAt ⟨"ns", "agent"⟩),
      orphaned.resolves (orphaned.agentAt ⟨"ns", "agent"⟩) t = true := by
    refine foundInLine ⟨"ns", "younger"⟩ ?_
    decide +kernel
  have keys : (orphaned.queued (orphaned.agentAt ⟨"ns", "agent"⟩).key).map Task.key =
      [⟨"ns", "older"⟩, ⟨"ns", "younger"⟩] := by decide +kernel
  have image : Text.isAllBlank (orphaned.agentAt ⟨"ns", "agent"⟩).spec.image = false := by decide +kernel
  have free : room orphaned.store default (orphaned.agentAt ⟨"ns", "agent"⟩) 0 = true := by decide +kernel
  have idle : ∀ key ∈ [(⟨"ns", "older"⟩ : Key), ⟨"ns", "younger"⟩],
      (reconcileAll .bare default [⟨"ns", "older"⟩, ⟨"ns", "younger"⟩] orphaned).phase? key ≠
        some .running := by decide +kernel
  obtain ⟨key, among, runs⟩ := claim .bare orphaned default (orphaned.agentAt ⟨"ns", "agent"⟩) t
    [⟨"ns", "older"⟩, ⟨"ns", "younger"⟩] image (by rw [keys]) inside resolves free
  exact idle key among runs

end Backend
end Turnstile
