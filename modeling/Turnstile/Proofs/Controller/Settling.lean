import Turnstile.Proofs.Controller.Publishing
/-! Serving the triggers comes to rest. Each write of the loop is a change that it has to take in its
turn, but it writes to a trigger only what makes its status right, and then no more: the changes to be
taken and the triggers to be written become fewer with every one that is taken. -/
namespace Turnstile
open TriggerController

theorem Collection.noticeAdvances {k : Kind} {c : Collection k} {seen later : Nat} {notice : Notice k}
    (next : c.notice? seen = some (notice, later)) : seen < later ∧ later ≤ c.events.size := by
  unfold notice? at next
  split at next
  · cases next
    omega
  · obtain ⟨e, event, same⟩ := Option.map_eq_some_iff.mp next
    cases same
    exact ⟨Nat.lt_succ_self _, (Array.getElem?_eq_some_iff.mp event).1⟩

namespace Occasion
variable {o : Occasion} {key : Key}

def serves (b : Backend) (o : Occasion) : List Key := o.jobs.flatMap fun
  | .read key => [key]
  | .list => (b.store.list .trigger .all).map WebhookTrigger.key
  | .drop _ | .follow .. | .publish _ => []

def Syncs (key : Key) : Occasion → Prop
  | trigger (.event (.applied t)) => t.key = key
  | trigger (.event (.deleted _)) => False
  | task (.event e) => owner? e.object = some key
  | start | trigger .lagged | task .lagged | tick => True

theorem servesListed (all : o.jobs = [.list]) (b : Backend) :
    o.serves b = (b.store.list .trigger .all).map WebhookTrigger.key := by
  unfold serves
  rw [all]
  exact List.append_nil _

theorem listedCovers (all : o.jobs = [.list]) (base : String) (b : Backend) (key : Key) :
    key ∈ o.serves b ∨ b.SettledAt base key := by
  rw [servesListed all]
  by_cases inside : key ∈ (b.store.list .trigger .all).map WebhookTrigger.key
  · exact .inl inside
  · refine .inr fun t stored => absurd (List.mem_map.mpr ⟨t, ?_, b.store.triggers.keyed stored⟩) inside
    rw [Store.listAll]
    exact SortedMap.memValues.mpr ⟨key, stored⟩

theorem syncsCovers (syncs : o.Syncs key) (base : String) (b : Backend) :
    key ∈ o.serves b ∨ b.SettledAt base key := by
  cases o with
  | start | tick => exact listedCovers rfl base b key
  | trigger notice =>
    cases notice with
    | lagged => exact listedCovers rfl base b key
    | event e =>
      cases e with
      | deleted t => exact syncs.elim
      | applied t => exact .inl (List.mem_singleton.mpr syncs.symm)
  | task notice =>
    cases notice with
    | lagged => exact listedCovers rfl base b key
    | event e =>
      have owner : owner? e.object = some key := syncs
      refine .inl ?_
      unfold serves jobs
      dsimp only
      rw [owner]
      exact List.mem_singleton.mpr rfl

end Occasion

namespace Serving
variable {base : String} {s mid d : Serving} {o : Occasion} {log : List Occasion} {key : Key}

theorem attendedBackend (base : String) (s : Serving) (o : Occasion) (now : Instant) :
    (s.attended base o now).backend = (o.serves s.backend).foldl (Backend.published base) s.backend := by
  have listed := resynced base s.registry now s.backend
  unfold attended Occasion.procedure
  cases o with
  | start | tick => rwa [Occasion.servesListed rfl]
  | trigger notice =>
    cases notice with
    | lagged => rwa [Occasion.servesListed rfl]
    | event e =>
      cases e with
      | deleted t => rfl
      | applied t => exact congrArg Prod.snd (synced base s.registry t.key now s.backend)
  | task notice =>
    cases notice with
    | lagged => rwa [Occasion.servesListed rfl]
    | event e =>
      unfold Occasion.serves Occasion.jobs
      dsimp only [onTask]
      cases owner? e.object with
      | none => rfl
      | some key => exact congrArg Prod.snd (synced base s.registry key now s.backend)

inductive Attends (base : String) (s : Serving) : Occasion → Serving → Prop where
  | trigger {notice : Notice .trigger} {seen : Nat} (idle : s.work = .waiting)
      (found : s.triggers.notice? s.triggersSeen = some (notice, seen)) (now : Instant) :
      Attends base s (.trigger notice) ({ s with triggersSeen := seen }.attended base (.trigger notice) now)
  | task {notice : Notice .task} {seen : Nat} (idle : s.work = .waiting)
      (found : s.backend.store.tasks.notice? s.tasksSeen = some (notice, seen)) (now : Instant) :
      Attends base s (.task notice) ({ s with tasksSeen := seen }.attended base (.task notice) now)

theorem Attends.reachable (turn : Attends base s o d) (past : Reachable base s) : Reachable base d := by
  cases turn with
  | trigger idle found now => exact (past.step (.triggerNotice s idle found)).attended rfl now
  | task idle found now => exact (past.step (.taskNotice s idle found)).attended rfl now

inductive Run (base : String) : Serving → List Occasion → Serving → Prop where
  | nil (s : Serving) : Run base s [] s
  | cons {s mid d : Serving} {o : Occasion} {log : List Occasion} (first : Attends base s o mid)
      (later : Run base mid log d) : Run base s (o :: log) d

def Rested (s : Serving) : Prop :=
  s.triggers.notice? s.triggersSeen = none ∧ s.backend.store.tasks.notice? s.tasksSeen = none

theorem Rested.taken (rested : s.Rested) : s.triggers.events.size ≤ s.triggersSeen := by
  have none := rested.1
  unfold Collection.notice? at none
  split at none
  · cases none
  · exact Array.getElem?_eq_none_iff.mp (Option.map_eq_none_iff.mp none)

/-- The changes that are still to be taken, and the triggers that are still to be written. -/
def left (base : String) (s : Serving) : Nat :=
  (s.triggers.events.size - s.triggersSeen) + (s.backend.store.tasks.events.size - s.tasksSeen) +
    s.backend.unsettled base

theorem attendedTasks (base : String) (s : Serving) (o : Occasion) (now : Instant) :
    (s.attended base o now).backend.store.tasks = s.backend.store.tasks := by
  rw [attendedBackend]
  exact Backend.publishedAllTasks

theorem attendedSettles (base : String) (s : Serving) (o : Occasion) (now : Instant)
    (covered : o.Syncs key ∨ s.backend.SettledAt base key) : (s.attended base o now).backend.SettledAt base key := by
  rw [attendedBackend]
  rcases covered with syncs | settled
  · exact Backend.publishedAllSettles (o.syncsCovers syncs base s.backend)
  · exact Backend.publishedAllSettles (.inr settled)

theorem attendedLeft (base : String) (s : Serving) (o : Occasion) (now : Instant) :
    (s.attended base o now).left base ≤ s.left base := by
  have counted := Backend.publishedAllCounted base s.backend (o.serves s.backend)
  rw [← attendedBackend base s o now] at counted
  obtain ⟨n, size, fewer⟩ := counted
  unfold left triggers
  rw [attendedTasks, size, fewer]
  -- a watcher may stand beyond the record, and is then no further behind by a change
  change s.backend.store.triggers.events.size + n - s.triggersSeen +
    (s.backend.store.tasks.events.size - s.tasksSeen) + _ ≤ _
  omega

namespace Attends

theorem left (turn : Attends base s o d) : d.left base < s.left base := by
  cases turn with
  | @trigger notice seen idle found now =>
    obtain ⟨more, within⟩ := Collection.noticeAdvances found
    refine Nat.lt_of_le_of_lt (attendedLeft base _ _ now) ?_
    unfold triggers at within
    unfold Serving.left triggers
    dsimp only
    omega
  | @task notice seen idle found now =>
    obtain ⟨more, within⟩ := Collection.noticeAdvances found
    refine Nat.lt_of_le_of_lt (attendedLeft base _ _ now) ?_
    unfold Serving.left triggers
    dsimp only
    omega

theorem idle (turn : Attends base s o d) : d.work = .waiting := by
  cases turn <;> rfl

theorem tasks (turn : Attends base s o d) : d.backend.store.tasks = s.backend.store.tasks := by
  cases turn with
  | trigger _ _ now | task _ _ now => exact attendedTasks base _ _ now

theorem settles (turn : Attends base s o d) (covered : o.Syncs key ∨ s.backend.SettledAt base key) :
    d.backend.SettledAt base key := by
  cases turn with
  | trigger _ _ now | task _ _ now => exact attendedSettles base _ _ now covered

end Attends

namespace Run

theorem bounded (run : Run base s log d) : log.length + d.left base ≤ s.left base := by
  induction run with
  | nil s => exact Nat.le_of_eq (Nat.zero_add _)
  | cons first later ih =>
    have fewer := first.left
    rw [List.length_cons]
    omega

theorem idle (run : Run base s log d) (waits : s.work = .waiting) : d.work = .waiting := by
  induction run with
  | nil s => exact waits
  | cons first later ih => exact ih first.idle

theorem tasks (run : Run base s log d) : d.backend.store.tasks = s.backend.store.tasks := by
  induction run with
  | nil s => rfl
  | cons first later ih => exact ih.trans first.tasks

theorem reachable (run : Run base s log d) (past : Reachable base s) : Reachable base d := by
  induction run with
  | nil s => exact past
  | cons first later ih => exact ih (first.reachable past)

/-- A loop that has come to rest serves the valid triggers that are stored, and nothing else. -/
theorem serves (run : Run base s log d) (past : Reachable base s) (waits : s.work = .waiting) (rests : d.Rested)
    (key : Key) : d.registry.get? key = (d.backend.store.get? .trigger key).filter (·.spec.isValid) := by
  have idle := run.idle waits
  have still : ¬ d.work.CatchesUp := by
    rw [idle]
    exact id
  exact ((run.reachable past).sound.exact still key).resolve_left (noneUnhandled idle rests.taken key)

theorem settles (run : Run base s log d) (covered : (∃ o ∈ log, o.Syncs key) ∨ s.backend.SettledAt base key) :
    d.backend.SettledAt base key := by
  induction run with
  | nil s => exact covered.resolve_left fun ⟨_, inside, _⟩ => List.not_mem_nil inside
  | cons first later ih =>
    refine ih ?_
    rcases covered with ⟨o, inside, syncs⟩ | settled
    · rcases List.mem_cons.mp inside with rfl | more
      · exact .inr (first.settles (.inl syncs))
      · exact .inl ⟨o, more, syncs⟩
    · exact .inr (first.settles (.inr settled))

end Run

theorem attendsOrRests (base : String) (idle : s.work = .waiting) : (∃ o d, Attends base s o d) ∨ s.Rested := by
  cases triggers : s.triggers.notice? s.triggersSeen with
  | some next => exact .inl ⟨_, _, .trigger idle triggers default⟩
  | none =>
    cases tasks : s.backend.store.tasks.notice? s.tasksSeen with
    | some next => exact .inl ⟨_, _, .task idle tasks default⟩
    | none => exact .inr ⟨triggers, tasks⟩

theorem comesToRest (idle : s.work = .waiting) : ∃ log d, Run base s log d ∧ d.Rested := by
  -- on what is left, which every notice that is taken lowers
  induction bound : s.left base using Nat.strongRecOn generalizing s with
  | ind n ih =>
    rcases attendsOrRests base idle with ⟨o, mid, first⟩ | rested
    · obtain ⟨log, d, later, rested⟩ := ih _ (bound ▸ first.left) first.idle rfl
      exact ⟨o :: log, d, .cons first later, rested⟩
    · exact ⟨[], s, .nil s, rested⟩

/-- To serve a trigger a second time writes nothing and changes in the registry at most the status and the
version of its copy. From any state, with any backlog of changes, the loop takes a bounded number of notices while
nobody else writes, and then comes to rest; of the valid triggers that were served in between, each has its URL
published and names only active tasks of its own. -/
theorem syncSettles (base : String) :
    (∀ (registry : Registry) (key : Key) (now later last : Instant) (b : Backend),
      let once := (sync base registry key).run now b
      let twice := (sync base once.1 key).run later once.2
      Renews key b once twice ∧ (sync base twice.1 key).run last twice.2 = twice) ∧
    ∀ (s d : Serving) (log : List Occasion), s.work = .waiting → Run base s log d →
      log.length ≤ s.left base ∧ (∃ more rest, Run base d more rest ∧ rest.Rested) ∧
      d.backend.store.tasks = s.backend.store.tasks ∧
      ∀ key t, (∃ o ∈ log, o.Syncs key) → d.backend.store.get? .trigger key = some t → t.spec.isValid = true →
        t.status.webhookUrl = some (Webhook.url base key) ∧ ∀ name ∈ t.status.listed,
          ∃ task, d.backend.store.get? .task ⟨key.ns, name⟩ = some task ∧ task.isActive = true ∧
            owner? task = some key := by
  refine ⟨syncedTwice base, fun s d log idle run => ⟨?_, comesToRest (run.idle idle), run.tasks, ?_⟩⟩
  · exact Nat.le_of_add_right_le run.bounded
  · intro key t served stored valid
    have own : t.key = key := d.triggers.keyed stored
    subst own
    exact WebhookTrigger.settledServes (run.settles (.inl served) t stored) valid

def created : Serving := ⟨(Backend.empty.perform default (.create .trigger hook)).2, .empty, 0, 0, .waiting⟩

theorem hookSettles : created.work = .waiting ∧ ∃ o d t, Run "" created [o] d ∧
    d.backend.store.get? .trigger hook.key = some t ∧ t.spec.isValid = true ∧
    t.status.webhookUrl = some (Webhook.url "" hook.key) := by
  have next : created.triggers.notice? created.triggersSeen =
      some (.event (.applied (Collection.firstWrite (k := .trigger) 1 default hook)), 1) :=
    if_neg (by decide +kernel)
  have run : Run "" created [_] _ := .cons (.trigger rfl next default) (.nil _)
  have there : ((attended "" { created with triggersSeen := 1 } (.trigger (.event (.applied
      (Collection.firstWrite (k := .trigger) 1 default hook)))) default).backend.store.get? .trigger hook.key).any
        (·.spec.isValid) = true := by decide +kernel
  obtain ⟨t, stored, valid⟩ := (Option.any_eq_true _ _).mp there
  obtain ⟨-, -, -, settles⟩ := (syncSettles "").2 created _ _ rfl run
  exact ⟨rfl, _, _, t, run, stored, valid, (settles _ t ⟨_, List.mem_singleton.mpr rfl, rfl⟩ stored valid).1⟩

theorem secondSyncRenews : ¬ ∀ (base : String) (registry : Registry) (key : Key) (now later : Instant) (b : Backend),
    let once := (sync base registry key).run now b
    let twice := (sync base once.1 key).run later once.2
    twice.2 = once.2 ∧ twice.1 = once.1 := by
  intro claim
  have renewed : ((sync "" ((sync "" .empty hook.key).run default created.backend).1 hook.key).run default
      ((sync "" .empty hook.key).run default created.backend).2).1 ≠
        ((sync "" .empty hook.key).run default created.backend).1 := by decide +kernel
  exact renewed (claim "" .empty hook.key default default created.backend).2

end Serving
end Turnstile
