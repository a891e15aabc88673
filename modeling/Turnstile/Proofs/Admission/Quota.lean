import Mathlib.Data.List.Perm.Subperm
import Turnstile.Proofs.Admission.Moves
import Turnstile.Proofs.Reconcile.Rounds
import Turnstile.Proofs.Time
/-! How many tasks of an agent start within a window of its quota. A task remembers its
last start only, so the quota counts tasks: one that starts again takes no more of it. -/
namespace Turnstile
open Admission Reconcile

theorem Collection.keysCounted {c : Collection .task} {p : Task → Bool} {keys : List Key}
    (distinct : keys.Nodup) (stored : ∀ key ∈ keys, ∃ t, c.objects.get? key = some t ∧ p t = true) :
    keys.length ≤ c.objects.values.countP p := by
  rw [List.countP_eq_length_filter, ← List.length_map Task.key]
  refine (distinct.subperm fun key inside => ?_).length_le
  obtain ⟨t, found, holds⟩ := stored key inside
  have own : t.key = key := c.keyed found
  rw [← own]
  exact List.mem_map_of_mem (List.mem_filter.mpr ⟨SortedMap.memValues.mpr ⟨key, found⟩, holds⟩)

theorem Reconcile.resolvedStored {s : Store} {t : Task} {resolved : Resolved}
    (found : resolveIn s t = .ok resolved) :
    s.get? .agent resolved.agent.key = some resolved.agent := by
  unfold resolveIn at found
  split at found
  · cases found
  · split at found
    · cases found
    · split at found
      · cases found
      · rename_i agent stored
        split at found
        · cases found
          have own : agent.key = _ := s.agents.keyed stored
          rw [own]
          exact stored
        · cases found

def Round.startsFor (p : Round) (agent : Key) : Bool :=
  p.starts p.key && (p.after.store.get? .task p.key).any (Task.runsFor agent)

def startsUpTo (agent : Key) (quota : AgentQuota) (log : List Round) (last : Instant) : List Round :=
  log.filter fun p => p.startsFor agent &&
    (decide (last.shift (-((window quota).nanoseconds : Int)) ≤ p.now) && decide (p.now ≤ last))

/-- A reconcile by a clock that shows no leap seconds, under which the agent has its quota
and no task that it started resolves to another agent. -/
structure Round.Under (p : Round) (agent : Key) (quota : AgentQuota) : Prop where
  plain : p.now.Plain
  quota : ∀ a, p.before.store.get? .agent agent = some a → a.spec.quota = some quota
  faithful : ∀ t resolved, p.before.store.get? .task p.key = some t → t.status.agent = some agent →
    resolveIn p.before.store t = .ok resolved → resolved.agent.key = agent

instance (p : Round) (agent : Key) (quota : AgentQuota) : Decidable (p.Under agent quota) :=
  decidable_of_iff (p.now.Plain ∧
      (∀ a ∈ p.before.store.get? .agent agent, a.spec.quota = some quota) ∧
      ∀ t ∈ p.before.store.get? .task p.key, t.status.agent = some agent →
        ∀ resolved ∈ (resolveIn p.before.store t).toOption, resolved.agent.key = agent)
    ⟨fun ⟨plain, quota, faithful⟩ => ⟨plain, fun a stored => quota a stored,
        fun t resolved stored own found => faithful t stored own resolved (by rw [found]; rfl)⟩,
      fun under => ⟨under.plain, fun a stored => under.quota a stored, fun t stored own resolved found => by
        cases result : resolveIn p.before.store t with
        | error cause =>
          rw [result] at found
          cases found
        | ok other =>
          rw [result] at found
          cases found
          exact under.faithful t resolved stored own result⟩⟩

/-- What others may do: anything but delete a task of the agent or write its status. -/
def Steady (agent : Key) (b after : Backend) : Prop :=
  ∀ key t, b.store.get? .task key = some t → t.status.agent = some agent →
    ∃ u, after.store.get? .task key = some u ∧ u.status = t.status

theorem Backend.performSteady {c : Call} {agent : Key} {b : Backend} (now : Instant)
    (leaves : c.LeavesStatus)
    (kept : ∀ key t, c = .delete .task key → b.store.get? .task key = some t → t.status.agent ≠ some agent) :
    Steady agent b (b.perform now c).2 := by
  intro key t stored own
  exact performKeeps leaves (fun deletes => kept key t deletes stored own) stored

theorem steadySame {agent : Key} {b after : Backend} (same : after.store = b.store) :
    Steady agent b after := by
  intro key t stored _
  rw [same]
  exact ⟨t, stored, rfl⟩

def Backend.StartedAt (b : Backend) (agent key : Key) (s : Instant) : Prop :=
  ∃ t, b.store.get? .task key = some t ∧ t.status.agent = some agent ∧ t.status.startTime = some s

structure Paced (agent : Key) (quota : AgentQuota) (log : List Round) (b : Backend) : Prop where
  seen : ∀ p ∈ log, p.startsFor agent = true → ∃ q ∈ log, p.now ≤ q.now ∧ b.StartedAt agent p.key q.now
  few : ∀ last (keys : List Key), keys.Nodup →
    (∀ key ∈ keys, ∃ p ∈ startsUpTo agent quota log last, p.key = key) →
    keys.length ≤ quota.maxTaskStarts.toNat

section
variable {agent key : Key} {quota : AgentQuota} {log : List Round} {p q : Round} {b after first : Backend}
  {s last : Instant}

theorem inStartsUpTo : p ∈ startsUpTo agent quota log last ↔ p ∈ log ∧ p.startsFor agent = true ∧
    last.shift (-((window quota).nanoseconds : Int)) ≤ p.now ∧ p.now ≤ last := by
  simp [startsUpTo]

namespace Round

theorem startedFor (starts : q.startsFor agent = true) : q.after.StartedAt agent q.key q.now ∧
    ∃ (t : Task) (resolved : Resolved), q.before.store.get? .task q.key = some t ∧
      resolved.agent.key = agent ∧
      q.before.store.get? .agent agent = some resolved.agent ∧
      (quotaIn q.before.store q.now resolved.agent).remaining.exceeds
        (aheadIn q.before.store q.now resolved.agent t) = true := by
  obtain ⟨starts, runs⟩ := Bool.and_eq_true_iff.mp starts
  obtain ⟨t, resolved, version, stored, -, -, -, found, allowance, -, after, -⟩ :=
    Round.started starts
  rw [after, Option.any_some] at runs
  have counted := (Task.runsForIff.mp runs).2
  have own : resolved.agent.key = agent :=
    Option.some.inj ((Task.agentRecorded (by rfl)).symm.trans counted)
  refine ⟨⟨_, after, congrArg some own, rfl⟩, t, resolved, stored, own, ?_, allowance⟩
  rw [← own]
  exact resolvedStored found

theorem keepsStart (under : q.Under agent quota) (started : q.before.StartedAt agent key s) :
    q.after.StartedAt agent key s ∨ q.after.StartedAt agent key q.now := by
  obtain ⟨t, stored, own, start⟩ := started
  by_cases same : key = q.key
  · subst same
    rcases q.changed.found stored with ⟨same, -⟩ | ⟨version, change, write, after⟩
    · exact .inl ⟨t, same, own, start⟩
    · generalize q.after.workloads = w at write
      cases write with
      | started _ _ _ found =>
        exact .inr ⟨_, after, congrArg some (under.faithful t _ stored own found), rfl⟩
      | queued _ _ found goes =>
        refine .inl ⟨_, after, ?_, start⟩
        change some _ = _
        rw [goes, under.faithful t _ stored own found]
      | blocked | completed | retried | failed | stopped => exact .inl ⟨_, after, own, start⟩
  · refine .inl ⟨t, ?_, own, start⟩
    rw [q.changed.others same]
    exact stored

end Round

namespace Paced

theorem between (h : Paced agent quota log b) (steady : Steady agent b after) :
    Paced agent quota log after := by
  refine ⟨fun p inside starts => ?_, h.few⟩
  obtain ⟨q, later, order, t, stored, own, start⟩ := h.seen p inside starts
  obtain ⟨u, found, same⟩ := steady p.key t stored own
  exact ⟨q, later, order, u, found, by rw [same]; exact own, by rw [same]; exact start⟩

theorem counted (h : Paced agent quota log q.before) (under : q.Under agent quota)
    (ordered : ∀ p ∈ log, p.now ≤ q.now) (inTime : q.now ≤ last)
    {keys : List Key} (distinct : keys.Nodup)
    (started : ∀ key ∈ keys, ∃ p ∈ startsUpTo agent quota log last, p.key = key) :
    keys.length ≤ q.before.store.tasks.objects.values.countP
      (Task.startedWithin agent (window quota) q.now) := by
  refine Collection.keysCounted distinct fun key inside => ?_
  obtain ⟨p, there, rfl⟩ := started key inside
  obtain ⟨past, starts, recent, -⟩ := inStartsUpTo.mp there
  obtain ⟨x, later, order, t, stored, own, start⟩ := h.seen p past starts
  refine ⟨t, stored, ?_⟩
  have since : q.now.shift (-((window quota).nanoseconds : Int)) ≤ x.now :=
    Instant.sameOrEarlier (Instant.secondsBack under.plain inTime _) (Instant.sameOrEarlier recent order)
  have before : x.now ≤ q.now := ordered x later
  simp [Task.startedWithin, Task.agentRecorded own, start, since, before]

theorem started (h : Paced agent quota log q.before) (under : q.Under agent quota)
    (ordered : ∀ p ∈ log, p.now ≤ q.now) (starts : q.startsFor agent = true) (inTime : q.now ≤ last)
    {keys : List Key} (distinct : keys.Nodup)
    (started : ∀ key ∈ keys, ∃ p ∈ startsUpTo agent quota log last, p.key = key) :
    keys.length < quota.maxTaskStarts.toNat := by
  obtain ⟨-, t, resolved, -, own, stored, allowance⟩ := Round.startedFor starts
  have counted := h.counted under ordered inTime distinct started
  rw [quotaCounted, under.quota _ stored, Option.all_some, own] at allowance
  have below : _ < quota.maxTaskStarts.toNat - q.before.store.tasks.objects.values.countP
      (Task.startedWithin agent (window quota) q.now) := of_decide_eq_true allowance
  omega

theorem round (h : Paced agent quota log q.before) (under : q.Under agent quota)
    (ordered : ∀ p ∈ log, p.now ≤ q.now) : Paced agent quota (log ++ [q]) q.after := by
  refine ⟨fun p inside starts => ?_, fun last keys distinct started => ?_⟩
  · rcases List.mem_append.mp inside with past | own
    · obtain ⟨x, later, order, there⟩ := h.seen p past starts
      rcases Round.keepsStart under there with same | again
      · exact ⟨x, List.mem_append_left _ later, order, same⟩
      · exact ⟨q, by simp, ordered p past, again⟩
    · cases List.mem_singleton.mp own
      exact ⟨q, inside, .inr ⟨rfl, Nat.le_refl _⟩, (Round.startedFor starts).1⟩
  · have earlier : ∀ key ∈ keys, key ≠ q.key ∨ q ∉ startsUpTo agent quota (log ++ [q]) last →
        ∃ p ∈ startsUpTo agent quota log last, p.key = key := by
      intro key inside other
      obtain ⟨p, there, rfl⟩ := started key inside
      obtain ⟨either, rest⟩ := inStartsUpTo.mp there
      rcases List.mem_append.mp either with past | own
      · exact ⟨p, inStartsUpTo.mpr ⟨past, rest⟩, rfl⟩
      · cases List.mem_singleton.mp own
        rcases other with apart | outside
        · exact absurd rfl apart
        · exact absurd there outside
    by_cases now : q ∈ startsUpTo agent quota (log ++ [q]) last
    -- the task that starts now is the only one that its allowance may not count
    · obtain ⟨-, starts, -, inTime⟩ := inStartsUpTo.mp now
      have fewer := h.started under ordered starts inTime (distinct.erase q.key) fun key inside =>
        earlier key (List.mem_of_mem_erase inside) (.inl (distinct.mem_erase_iff.mp inside).1)
      have less := List.le_length_erase (a := q.key) (l := keys)
      omega
    · exact h.few last keys distinct fun key inside => earlier key inside (.inr now)

end Paced

theorem Chronicle.paced (run : Chronicle (Steady agent) first log b)
    (ordered : log.Pairwise fun p q => p.now ≤ q.now) (under : ∀ p ∈ log, p.Under agent quota) :
    Paced agent quota log b := by
  induction run with
  | start =>
    refine ⟨fun p inside => absurd inside List.not_mem_nil, fun last keys _ started => ?_⟩
    cases keys with
    | nil => exact Nat.zero_le _
    | cons key rest =>
      obtain ⟨p, there, -⟩ := started key (List.mem_cons_self ..)
      exact absurd (inStartsUpTo.mp there).1 List.not_mem_nil
  | between past next ih => exact (ih ordered under).between next
  | round past r now key ih =>
    obtain ⟨before, -, across⟩ := List.pairwise_append.mp ordered
    have paced := ih before fun p inside => under p (List.mem_append_left _ inside)
    exact paced.round (under _ (by simp)) fun p inside => across p inside _ (List.mem_singleton.mpr rfl)

/-- No more tasks of an agent start within a window than its quota allows, and no more
starts are there as long as none of them starts twice within it. -/
theorem startsLimited (run : Chronicle (Steady agent) first log b)
    (ordered : log.Pairwise fun p q => p.now ≤ q.now) (under : ∀ p ∈ log, p.Under agent quota)
    (last : Instant) :
    (∀ keys : List Key, keys.Nodup → (∀ key ∈ keys, ∃ p ∈ startsUpTo agent quota log last, p.key = key) →
      keys.length ≤ quota.maxTaskStarts.toNat) ∧
    (((startsUpTo agent quota log last).map Round.key).Nodup →
      (startsUpTo agent quota log last).length ≤ quota.maxTaskStarts.toNat) := by
  have few := (run.paced ordered under).few last
  refine ⟨few, fun once => ?_⟩
  rw [← List.length_map Round.key]
  exact few _ once fun key inside => List.mem_map.mp inside

end

def strict (agent : Key) (quota : AgentQuota) : Agent :=
  { Agent.bare agent none with spec := { (Agent.bare agent none).spec with quota := some quota } }

def crowdedQuota : List Round :=
  let first := Round.first (strict ⟨"ns", "agent"⟩ ⟨1, 3600⟩) ⟨"ns", "one"⟩
  [first, ⟨.bare, default, ⟨"ns", "two"⟩,
    (first.after.perform default (.create .task (Task.bare ⟨"ns", "two"⟩ "agent"))).2⟩]

theorem crowdedQuotaRun : ∃ b, Chronicle (Steady ⟨"ns", "agent"⟩)
    (.lone (strict ⟨"ns", "agent"⟩ ⟨1, 3600⟩) ⟨"ns", "one"⟩) crowdedQuota b := by
  have started : Chronicle (Steady ⟨"ns", "agent"⟩) _
      [.first (strict ⟨"ns", "agent"⟩ ⟨1, 3600⟩) ⟨"ns", "one"⟩]
      (Round.first (strict ⟨"ns", "agent"⟩ ⟨1, 3600⟩) ⟨"ns", "one"⟩).after :=
    .round .start .bare default ⟨"ns", "one"⟩
  have another : Steady ⟨"ns", "agent"⟩ _ _ := Backend.performSteady
    (b := (Round.first (strict ⟨"ns", "agent"⟩ ⟨1, 3600⟩) ⟨"ns", "one"⟩).after) default
    (c := .create .task (Task.bare ⟨"ns", "two"⟩ "agent")) rfl (fun _ _ deletes => nomatch deletes)
  exact ⟨_, (started.between another).round .bare default ⟨"ns", "two"⟩⟩

theorem secondKept :
    (startsUpTo ⟨"ns", "agent"⟩ ⟨1, 3600⟩ crowdedQuota default).map Round.key = [⟨"ns", "one"⟩] ∧
    (startsUpTo ⟨"ns", "agent"⟩ ⟨1, 3600⟩ crowdedQuota default).length ≤ 1 := by
  obtain ⟨b, run⟩ := crowdedQuotaRun
  have keys : (startsUpTo ⟨"ns", "agent"⟩ ⟨1, 3600⟩ crowdedQuota default).map Round.key =
      [⟨"ns", "one"⟩] := by decide +kernel
  refine ⟨keys, (startsLimited run (by decide +kernel) (by decide +kernel) default).2 ?_⟩
  rw [keys]
  exact List.pairwise_singleton _ _

theorem startsUnlimited : ¬ ∀ (agent : Key) (quota : AgentQuota) (first b : Backend) (log : List Round),
    Chronicle (Steady agent) first log b → log.Pairwise (fun p q => p.now ≤ q.now) →
    (∀ p ∈ log, p.Under agent quota) → ∀ last,
      (startsUpTo agent quota log last).length ≤ quota.maxTaskStarts.toNat := by
  intro claim
  have still : ∀ {b after : Backend}, after.store = b.store → Steady ⟨"ns", "agent"⟩ b after := steadySame
  obtain ⟨b, run⟩ := killedTwiceRun still (strict ⟨"ns", "agent"⟩ ⟨2, 3600⟩) ⟨"ns", "task"⟩
  have few := claim _ ⟨2, 3600⟩ _ b _ run (by decide +kernel) (by decide +kernel)
    ((default : Instant).after (.ofSeconds 60))
  revert few
  decide +kernel

end Turnstile
