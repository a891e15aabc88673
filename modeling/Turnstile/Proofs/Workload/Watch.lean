import Turnstile.Proofs.Reconcile.Tending
import Turnstile.Proofs.Task.Lifecycle
/-! Workers side by side and the workloads that they leave. A workload is made before a
task is noted to run on it, so a reconcile that is let go between the two leaves one that
no task records. All others are live only for a task that runs on them. -/
namespace Turnstile
open Reconcile

namespace Worker

def told : Worker → List Told
  | idle => []
  | busy told _ => told

def Tends : Worker → Prop
  | idle => True
  | busy told rest => Procedure.Obeys Reconcile.Tends (fun _ _ => True) told rest

end Worker

/-- A crew, and the workloads that nobody answers for any more. -/
structure Watch where
  crew : Crew
  stray : List Key

namespace Watch

abbrev store (w : Watch) : Store := w.crew.backend.store

abbrev workloads (w : Watch) : Workloads := w.crew.backend.workloads

def asked (w : Watch) (now : Instant) (i : Nat) (told : List Told) (call : Call)
    (next : call.Reply → Procedure (Except ReconcileError ReconcileOutcome)) : Watch where
  crew.backend := (w.crew.backend.perform now call).2
  crew.workers := w.crew.workers.set i (.busy (told ++ [⟨call, (w.crew.backend.perform now call).1⟩])
    (next (w.crew.backend.perform now call).1))
  stray := w.stray.filter fun run =>
    (Told.mk call (w.crew.backend.perform now call).1).landed? ≠ some run

/-- What may happen while only reconciles write the status of a task and make workloads,
and a workload that ends stays ended. A reconcile may fail at any call and be dropped
before any; what it made and did not record is stray until a task is noted to run on it,
and so is what a deleted task ran on. -/
inductive Step : Watch → Watch → Prop where
  | taken (w : Watch) {i : Nat} (r : Reconciler) (now : Instant) (key : Key)
      (free : w.crew.workers[i]? = some .idle) :
      Step w ⟨⟨w.crew.backend, w.crew.workers.set i (.busy [] (r.reconcile now key))⟩, w.stray⟩
  | asked (w : Watch) {i : Nat} {told : List Told} {call : Call}
      {next : call.Reply → Procedure (Except ReconcileError ReconcileOutcome)} (now : Instant)
      (turn : w.crew.workers[i]? = some (.busy told (.call call next))) :
      Step w (w.asked now i told call next)
  | denied (w : Watch) {i : Nat} {told : List Told} {call : Call}
      {next : call.Reply → Procedure (Except ReconcileError ReconcileOutcome)} (failure : Failure)
      (turn : w.crew.workers[i]? = some (.busy told (.call call next))) :
      Step w ⟨⟨w.crew.backend, w.crew.workers.set i
        (.busy (told ++ [⟨call, call.failed failure⟩]) (next (call.failed failure)))⟩, w.stray⟩
  | dropped (w : Watch) {i : Nat} {told : List Told}
      {rest : Procedure (Except ReconcileError ReconcileOutcome)}
      (turn : w.crew.workers[i]? = some (.busy told rest)) :
      Step w ⟨⟨w.crew.backend, w.crew.workers.set i .idle⟩, w.stray ++ unrecorded told⟩
  | written (w : Watch) (now : Instant) (call : Call) (clerical : call.Clerical) :
      Step w ⟨⟨(w.crew.backend.perform now call).2, w.crew.workers⟩, w.stray⟩
  | deleted (w : Watch) (now : Instant) (key : Key) :
      Step w ⟨⟨(w.crew.backend.perform now (.delete .task key)).2, w.crew.workers⟩,
        w.stray ++ ((w.store.get? .task key).bind recorded?).toList⟩
  | finished (w : Watch) (run : Key) (status : WorkloadStatus) (ended : status.state.isLive = false) :
      Step w ⟨⟨⟨w.store, (w.workloads.finish run status).2⟩, w.crew.workers⟩, w.stray⟩
  | evicted (w : Watch) (run : Key) :
      Step w ⟨⟨⟨w.store, (w.workloads.evict run).2⟩, w.crew.workers⟩, w.stray⟩

inductive Run : Watch → Watch → Prop where
  | start {w : Watch} (unspent : w.crew.Unspent) : Run w w
  | step {w v u : Watch} (past : Run w v) (next : Step v u) (unspent : u.crew.Unspent) : Run w u

def Held (w : Watch) (run : Key) : Prop :=
  run ∈ w.stray ∨ ∃ worker ∈ w.crew.workers, run ∈ unrecorded worker.told

def Owned (w : Watch) (run : Key) : Prop :=
  ∃ key t, w.store.get? .task key = some t ∧ t.status.Owns key run

def Settled (w : Watch) (told : List Told) : Prop :=
  ∀ t ∈ told.filterMap Told.task?, w.store.get? .task t.key = some t →
    ∀ run ∈ told.filterMap Told.gone?, t.status.Owns t.key run → w.workloads.Live run → w.Held run

structure Tidy (w : Watch) : Prop where
  versioned : w.crew.Versioned
  tends : ∀ worker ∈ w.crew.workers, worker.Tends
  located : ∀ key t, w.store.get? .task key = some t → t.status.Located key
  owned : ∀ run, w.workloads.Live run → w.Held run ∨ w.Owned run
  settled : ∀ worker ∈ w.crew.workers, w.Settled worker.told

end Watch

namespace Backend
variable {b : Backend} {now : Instant} {c : Call} {run : Key}

theorem liveAfter (live : (b.perform now c).2.workloads.Live run) :
    b.workloads.Live run ∨ (Told.mk c (b.perform now c).1).made? = some run := by
  cases c with
  | createWorkload spec =>
    change (b.workloads.create now spec).2.Live run at live
    change _ ∨ (Told.mk (.createWorkload spec) (b.workloads.create now spec).1).made? = some run
    cases reply : (b.workloads.create now spec).1 with
    | ok =>
      rcases Workloads.createLive live with before | same
      · exact .inl before
      · exact .inr (congrArg some same.symm)
    | error e =>
      unfold Workloads.create at live reply
      split at live
      · exact .inl live
      · rename_i image
        rw [if_neg image] at reply
        split at reply <;> cases reply
  | workloadStatus key => exact .inl (Workloads.statusLive live).1
  | deleteWorkload key => exact .inl (Workloads.deleteLive live).2
  | get | list | create | update | updateStatus | delete => exact .inl live

theorem goneEnded (gone : (Told.mk c (b.perform now c).1).gone? = some run) :
    ¬ (b.perform now c).2.workloads.Live run := by
  intro live
  cases c with
  | workloadStatus key =>
    obtain ⟨-, shown⟩ := Workloads.statusLive live
    change (Told.mk (.workloadStatus key) (.ok (b.workloads.status now key).1)).gone? = some run at gone
    cases observed : (b.workloads.status now key).1 with
    | none =>
      rw [observed] at gone
      obtain ⟨_, found, -⟩ := shown (Option.some.inj gone).symm
      rw [observed] at found
      cases found
    | some seen =>
      rw [observed] at gone
      cases alive : seen.state.isLive with
      | true => simp [Told.gone?, alive] at gone
      | false =>
        have same : key = run := by simpa [Told.gone?, alive] using gone
        obtain ⟨_, found, lives⟩ := shown same.symm
        rw [observed] at found
        cases found
        rw [alive] at lives
        cases lives
  | deleteWorkload key => exact (Workloads.deleteLive live).1 (Option.some.inj gone).symm
  | get | list | create | update | updateStatus | delete | createWorkload => cases gone

end Backend

namespace Reconcile
variable {told : List Told} {x : Told} {run : Key}

theorem unrecordedMore (inside : run ∈ unrecorded told) (other : x.landed? ≠ some run) :
    run ∈ unrecorded (told ++ [x]) := by
  unfold unrecorded at inside ⊢
  obtain ⟨made, unlanded⟩ := List.mem_filter.mp inside
  refine List.mem_filter.mpr ⟨?_, decide_eq_true ?_⟩
  · rw [List.filterMap_append]
    exact List.mem_append_left _ made
  · rw [List.filterMap_append, List.mem_append, not_or]
    exact ⟨of_decide_eq_true unlanded, by simpa using other⟩

theorem unrecordedMade (unwritten : told.filterMap Told.landed? = []) (made : x.made? = some run)
    (silent : x.landed? = none) : run ∈ unrecorded (told ++ [x]) := by
  unfold unrecorded
  rw [List.mem_filter, List.filterMap_append, List.filterMap_append, unwritten]
  simp [made, silent]

theorem Tends.first {c : Call} {reply : c.Reply} {t : Task} (may : Tends told c)
    (read : (Told.mk c reply).task? = some t) : told.filterMap Told.gone? = [] := by
  unfold Told.task? at read
  split at read
  · rename_i same
    cases same
    exact may
  · cases read

end Reconcile

namespace Watch
variable {w v : Watch} {i : Nat} {old new : Worker} {b : Backend} {stray : List Key} {run : Key}

theorem Held.turned (held : w.Held run) (turn : w.crew.workers[i]? = some old) :
    Held ⟨⟨b, w.crew.workers.set i new⟩, stray⟩ run ∨ run ∈ w.stray ∨ run ∈ unrecorded old.told := by
  rcases held with strays | ⟨worker, inside, makes⟩
  · exact .inr (.inl strays)
  · obtain ⟨j, there⟩ := List.mem_iff_getElem?.mp inside
    by_cases same : i = j
    · subst same
      rw [turn] at there
      cases there
      exact .inr (.inr makes)
    · have still : (w.crew.workers.set i new)[j]? = some worker := by
        rw [List.getElem?_set_ne same]
        exact there
      exact .inl (.inr ⟨worker, List.mem_of_getElem? still, makes⟩)

theorem heldNew (turn : w.crew.workers[i]? = some old) (makes : run ∈ unrecorded new.told) :
    Held ⟨⟨b, w.crew.workers.set i new⟩, stray⟩ run := by
  obtain ⟨within, -⟩ := List.getElem?_eq_some_iff.mp turn
  exact .inr ⟨new, List.mem_set within new, makes⟩

/-- What a step does for the workloads and for those who answer for them: a workload that
nobody answers for any more is one that a task, idle until then, runs on. -/
structure Carries (w v : Watch) : Prop where
  unmoved : ∀ t, w.store.Copied .task t → v.store.get? .task t.key = some t →
    w.store.get? .task t.key = some t
  live : ∀ run, v.workloads.Live run → w.workloads.Live run ∨ v.Held run
  held : ∀ run, w.Held run → v.Held run ∨ ∃ key t u, w.store.get? .task key = some t ∧
    t.phase ≠ .running ∧ v.store.get? .task key = some u ∧ u.status.Owns key run
  owned : ∀ run, w.Owned run → v.workloads.Live run → v.Held run ∨ v.Owned run

namespace Carries

theorem allOwned (carries : Carries w v) (h : w.Tidy) (live : v.workloads.Live run) :
    v.Held run ∨ v.Owned run := by
  rcases carries.live run live with before | held
  · rcases h.owned run before with held | owned
    · rcases carries.held run held with still | ⟨key, t, u, -, -, found, owns⟩
      · exact .inl still
      · exact .inr ⟨key, u, found, owns⟩
    · exact carries.owned run owned live
  · exact .inl held

theorem settled {told : List Told} (carries : Carries w v) (settled : w.Settled told)
    (copied : ∀ t ∈ told.filterMap Told.task?, w.store.Copied .task t) : v.Settled told := by
  intro t known after run gone owns live
  have before := carries.unmoved t (copied t known) after
  rcases carries.live run live with lived | held
  · rcases carries.held run (settled t known before run gone owns lived) with
      still | ⟨key, other, u, stored, idle, -, lands⟩
    · exact still
    · -- both tasks run on this workload, so they are one, and it did not run before
      obtain ⟨same, -⟩ := Key.runSame (owns.2.symm.trans lands.2)
      rw [← same, before] at stored
      cases stored
      exact absurd owns.1 idle
  · exact held

theorem ofTurn (turn : w.crew.workers[i]? = some old) (strays : ∀ run ∈ w.stray, run ∈ stray)
    (mine : ∀ run ∈ unrecorded old.told, run ∈ stray ∨ run ∈ unrecorded new.told) :
    Carries w ⟨⟨w.crew.backend, w.crew.workers.set i new⟩, stray⟩ where
  unmoved _ _ after := after
  live _ := .inl
  held run held := by
    rcases held.turned turn with still | strayed | made
    · exact .inl still
    · exact .inl (.inl (strays run strayed))
    · exact .inl ((mine run made).elim .inl (heldNew turn))
  owned _ owned _ := .inr owned

theorem ofOthers
    (unmoved : ∀ t, w.store.Copied .task t → b.store.get? .task t.key = some t →
      w.store.get? .task t.key = some t)
    (live : ∀ run, b.workloads.Live run → w.workloads.Live run)
    (strays : ∀ run ∈ w.stray, run ∈ stray)
    (owned : ∀ run, w.Owned run → run ∈ stray ∨ Owned ⟨⟨b, w.crew.workers⟩, stray⟩ run) :
    Carries w ⟨⟨b, w.crew.workers⟩, stray⟩ where
  unmoved := unmoved
  live run lives := .inl (live run lives)
  held run held := .inl (held.imp_left (strays run))
  owned run owns _ := (owned run owns).imp_left .inl

end Carries

section
variable {told : List Told} {call : Call} {now : Instant}
  {next : call.Reply → Procedure (Except ReconcileError ReconcileOutcome)}

theorem Carries.denied {failure : Failure} (turn : w.crew.workers[i]? = some (.busy told (.call call next))) :
    Carries w ⟨⟨w.crew.backend, w.crew.workers.set i
      (.busy (told ++ [⟨call, call.failed failure⟩]) (next (call.failed failure)))⟩, w.stray⟩ := by
  have silent : (Told.mk call (call.failed failure)).landed? = none := by
    cases call with
    | updateStatus k o => cases k <;> rfl
    | get | list | create | update | delete | createWorkload | workloadStatus | deleteWorkload => rfl
  refine .ofTurn turn (fun _ => id) fun run made => .inr ?_
  exact unrecordedMore made (by rw [silent]; exact nofun)

theorem Tidy.asRead {rest : Procedure (Except ReconcileError ReconcileOutcome)} {task stored : Task}
    (h : w.Tidy) (turn : w.crew.workers[i]? = some (.busy told rest))
    (known : task ∈ told.filterMap Told.task?) (found : w.store.get? .task task.key = some stored)
    (agreed : Kind.task.version task = 0 ∨ Kind.task.version task = Kind.task.version stored) :
    stored = task := by
  have copied := h.versioned.informed _ (List.mem_of_getElem? turn) task known
  exact copied.current stored found (agreed.resolve_left copied.numbered).symm

theorem Tidy.runsOn {key : Key} {t : Task} (h : w.Tidy) (stored : w.store.get? .task key = some t)
    (owns : t.status.Owns key run) : recorded? t = some run := by
  have own : t.key = key := w.store.tasks.keyed stored
  subst own
  rw [owns.2]
  exact recordedLocated (h.located t.key t stored) owns.1

theorem Held.asked (turn : w.crew.workers[i]? = some (.busy told (.call call next))) (held : w.Held run) :
    (w.asked now i told call next).Held run ∨
      (Told.mk call (w.crew.backend.perform now call).1).landed? = some run := by
  by_cases lands : (Told.mk call (w.crew.backend.perform now call).1).landed? = some run
  · exact .inr lands
  · rcases held.turned turn with still | strayed | made
    · exact .inl still
    · exact .inl (.inl (List.mem_filter.mpr ⟨strayed, decide_eq_true lands⟩))
    · exact .inl (heldNew turn (unrecordedMore made lands))

theorem heldMade (turn : w.crew.workers[i]? = some (.busy told (.call call next))) (may : Tends told call)
    (made : (Told.mk call (w.crew.backend.perform now call).1).made? = some run) :
    (w.asked now i told call next).Held run := by
  cases call with
  | createWorkload spec => exact heldNew turn (unrecordedMade may made rfl)
  | get | list | create | update | updateStatus | delete | workloadStatus | deleteWorkload => cases made

theorem Tidy.lands (h : w.Tidy) (turn : w.crew.workers[i]? = some (.busy told (.call call next)))
    (may : Tends told call)
    (lands : (Told.mk call (w.crew.backend.perform now call).1).landed? = some run) :
    ∃ key t u, w.store.get? .task key = some t ∧ t.phase ≠ .running ∧
      (w.asked now i told call next).store.get? .task key = some u ∧ u.status.Owns key run := by
  cases call with
  | get | list | create | update | delete | createWorkload | workloadStatus | deleteWorkload => cases lands
  | updateStatus k o =>
    cases k with
    | agent | template | trigger | secret => exact may.elim
    | task =>
      change (Told.mk (.updateStatus .task o) (w.store.updateStatus .task o).1).landed? = some run at lands
      rcases w.store.statusTaken o with
        ⟨⟨e, refused⟩, -⟩ | ⟨current, stored, found, agreed, done, own, status, after, -⟩
      · rw [refused] at lands
        cases lands
      · obtain ⟨task, known, noted, rfl, writes⟩ := may
        -- the version agreed, so what the rule says of the copy holds of what is stored
        obtain rfl : current = task := h.asRead turn known found agreed
        rw [done] at lands
        obtain ⟨running, recorded⟩ : stored.phase = .running ∧ recorded? stored = some run := by
          simpa [Told.landed?] using lands
        rcases writes with lands | rests
        · refine ⟨current.key, current, stored, found, lands.idle, after, running, ?_⟩
          have own : stored.key = current.key := own
          have located : stored.status.Located stored.key := by
            rw [own, status]
            exact lands.located
          rw [recordedLocated located running, own] at recorded
          exact (Option.some.inj recorded).symm
        · rw [Task.phase, status] at running
          exact absurd running rests.idle

theorem Tidy.rests {key : Key} {t : Task} (h : w.Tidy)
    (turn : w.crew.workers[i]? = some (.busy told (.call call next))) (may : Tends told call)
    (stored : w.store.get? .task key = some t) (owns : t.status.Owns key run) :
    (w.asked now i told call next).store.get? .task key = some t ∨
    ((Told.mk call (w.crew.backend.perform now call).1).landed? = none ∧
      (w.workloads.Live run → w.Held run)) := by
  cases call with
  | create | update | delete => exact may.elim
  | get | list | createWorkload | workloadStatus | deleteWorkload => exact .inl stored
  | updateStatus k o =>
    cases k with
    | agent | template | trigger | secret => exact may.elim
    | task =>
      rcases w.store.statusTaken o with
        ⟨-, kept⟩ | ⟨current, written, found, agreed, done, -, status, -, others⟩
      · exact .inl ((kept key).trans stored)
      · by_cases own : key = o.key
        · obtain ⟨task, known, noted, rfl, writes⟩ := may
          obtain rfl : current = task := h.asRead turn known found agreed
          subst own
          obtain rfl : current = t := Option.some.inj (found.symm.trans stored)
          rcases writes with lands | rests
          · exact absurd owns.1 lands.idle
          · have idle : written.phase ≠ .running := by
              rw [Task.phase, status]
              exact rests.idle
            have silent : (Told.mk (.updateStatus .task { current with status := noted })
                (w.store.updateStatus .task { current with status := noted }).1).landed? = none := by
              rw [done]
              simp [Told.landed?, idle]
            refine .inr ⟨silent, fun live => ?_⟩
            have gone := rests.gone owns.1 run (h.runsOn found owns)
            exact h.settled _ (List.mem_of_getElem? turn) current known found run gone owns live
        · exact .inl ((others key own).trans stored)

theorem Carries.asked (h : w.Tidy) (unspent : w.crew.Unspent)
    (turn : w.crew.workers[i]? = some (.busy told (.call call next))) (may : Tends told call) :
    Carries w (w.asked now i told call next) where
  unmoved _ copied after := Backend.unmoved copied unspent after
  live run live := (Backend.liveAfter live).imp_right (heldMade turn may)
  held run held := (held.asked turn).imp_right (h.lands turn may)
  owned run owned live := by
    obtain ⟨key, t, stored, owns⟩ := owned
    rcases Backend.liveAfter live with before | made
    · rcases h.rests turn may stored owns with still | ⟨silent, held⟩
      · exact .inr ⟨key, t, still, owns⟩
      · refine .inl ((Held.asked turn (held before)).resolve_right fun lands => ?_)
        rw [silent] at lands
        cases lands
    · exact .inl (heldMade turn may made)

end

section
variable {now : Instant} {call : Call} {key : Key}

theorem ownedKept {t : Task} (leaves : call.LeavesStatus) (spared : call ≠ .delete .task key)
    (stored : w.store.get? .task key = some t) (owns : t.status.Owns key run) :
    Owned ⟨⟨(w.crew.backend.perform now call).2, w.crew.workers⟩, stray⟩ run := by
  obtain ⟨u, found, status⟩ := w.crew.backend.performKeeps leaves spared stored
  rw [← status] at owns
  exact ⟨key, u, found, owns⟩

theorem Carries.written (unspent : w.crew.Unspent) (clerical : call.Clerical) :
    Carries w ⟨⟨(w.crew.backend.perform now call).2, w.crew.workers⟩, w.stray⟩ := by
  refine .ofOthers (fun t copied after => Backend.unmoved copied unspent after) (fun run live => ?_)
    (fun _ => id) fun run ⟨key, t, stored, owns⟩ => .inr ?_
  · rw [Backend.clericalWorkloads clerical] at live
    exact live
  · have spared : call ≠ .delete .task key := by
      rintro rfl
      exact clerical.elim
    exact ownedKept clerical.leaves spared stored owns

theorem Carries.deleted (h : w.Tidy) (unspent : w.crew.Unspent) :
    Carries w ⟨⟨(w.crew.backend.perform now (.delete .task key)).2, w.crew.workers⟩,
      w.stray ++ ((w.store.get? .task key).bind recorded?).toList⟩ := by
  refine .ofOthers (fun t copied after => Backend.unmoved copied unspent after) (fun _ => id)
    (fun run => List.mem_append_left _) fun run ⟨other, t, stored, owns⟩ => ?_
  by_cases same : key = other
  · subst same
    refine .inl (List.mem_append_right _ ?_)
    rw [stored]
    simp [h.runsOn stored owns]
  · have spared : Call.delete .task key ≠ .delete .task other := by
      intro equal
      cases equal
      exact same rfl
    exact .inr (ownedKept trivial spared stored owns)

end

theorem Step.carries (step : Step w v) (h : w.Tidy) (unspent : w.crew.Unspent) : Carries w v := by
  cases step with
  | taken r now key free => exact .ofTurn free (fun _ => id) nofun
  | asked now turn => exact .asked h unspent turn (h.tends _ (List.mem_of_getElem? turn)).1
  | denied failure turn => exact .denied turn
  | dropped turn =>
    exact .ofTurn turn (fun _ => List.mem_append_left _) fun _ made => .inl (List.mem_append_right _ made)
  | written now call clerical => exact .written unspent clerical
  | deleted now key => exact .deleted h unspent
  | finished run status ended =>
    exact .ofOthers (fun _ _ => id) (fun _ => Workloads.finishLive ended) (fun _ => id) fun _ => .inr
  | evicted run =>
    exact .ofOthers (fun _ _ => id) (fun _ live => (Workloads.deleteLive live).2) (fun _ => id)
      fun _ => .inr

theorem Step.versioned (step : Step w v) (h : w.crew.Versioned) (unspent : w.crew.Unspent) :
    v.crew.Versioned := by
  cases step with
  | taken r now key free => exact (Crew.Step.taken w.crew r now key free).versioned h unspent
  | asked now turn => exact (Crew.Step.asked w.crew now turn).versioned h unspent
  | denied failure turn => exact (Crew.Stir.denied w.crew failure turn).versioned h unspent
  | dropped turn => exact h.turned trivial trivial
  | written now call clerical => exact h.performed unspent now call
  | deleted now key => exact h.performed unspent now _
  | finished | evicted => exact ⟨h.stored, h.informed, h.writes⟩

theorem Step.tends (step : Step w v) (h : ∀ worker ∈ w.crew.workers, worker.Tends) :
    ∀ worker ∈ v.crew.workers, worker.Tends := by
  cases step with
  | taken r now key free => exact allSet h (reconcileTends r now key)
  | asked now turn | denied failure turn => exact allSet h ((h _ (List.mem_of_getElem? turn)).2 _)
  | dropped turn => exact allSet h trivial
  | written | deleted | finished | evicted => exact h

theorem Step.located (step : Step w v) (h : w.Tidy) {key : Key} {t : Task}
    (after : v.store.get? .task key = some t) : t.status.Located key := by
  have kept : ∀ {now : Instant} {call : Call}, call.LeavesStatus →
      (w.crew.backend.perform now call).2.store.get? .task key = some t → t.status.Located key := by
    intro now call leaves found
    rcases Backend.performLeaves leaves found with ⟨-, fresh⟩ | ⟨old, before, status⟩
    · rw [fresh]
      exact nofun
    · rw [status]
      exact h.located key old before
  cases step with
  | taken | denied | dropped | finished | evicted => exact h.located key t after
  | written now call clerical => exact kept clerical.leaves after
  | deleted now gone => exact @kept now (.delete .task gone) trivial after
  | @asked i told call next now turn =>
    have may := (h.tends _ (List.mem_of_getElem? turn)).1
    cases call with
    | create | update | delete => exact may.elim
    | get | list | createWorkload | workloadStatus | deleteWorkload => exact h.located key t after
    | updateStatus k o =>
      cases k with
      | agent | template | trigger | secret => exact may.elim
      | task =>
        obtain ⟨task, -, noted, rfl, writes⟩ := may
        rcases Store.statusWritten after with before | ⟨-, own, -, -, status⟩
        · exact h.located key t before
        · rw [status, own]
          rcases writes with lands | rests
          · exact lands.located
          · exact fun running => absurd running rests.idle

theorem settledNothing : w.Settled [] := fun _ known => absurd known List.not_mem_nil

theorem Settled.more {told : List Told} {x : Told} (h : w.Settled told)
    (first : ∀ t, x.task? = some t → told.filterMap Told.gone? = [])
    (ended : ∀ run, x.gone? = some run → ¬ w.workloads.Live run) : w.Settled (told ++ [x]) := by
  intro t known stored run gone owns live
  rw [List.filterMap_append, List.mem_append] at known gone
  rcases gone with before | last
  · -- a task that was read just now was read before anything was seen to be over
    rcases known with known | read
    · exact h t known stored run before owns live
    · rw [first t (by simpa using read)] at before
      cases before
  · exact absurd live (ended run (by simpa using last))

theorem Step.settled (step : Step w v) (h : w.Tidy) (unspent : w.crew.Unspent) :
    ∀ worker ∈ v.crew.workers, v.Settled worker.told := by
  have later : ∀ worker ∈ w.crew.workers, v.Settled worker.told := by
    intro worker inside
    refine (step.carries h unspent).settled (h.settled worker inside) ?_
    cases worker with
    | idle => exact fun _ known => absurd known List.not_mem_nil
    | busy told rest => exact h.versioned.informed _ inside
  cases step with
  | taken | dropped => exact allSet later settledNothing
  | written | deleted | finished | evicted => exact later
  | @asked i told call next now turn =>
    have inside := List.mem_of_getElem? turn
    refine allSet later (Settled.more (later _ inside) (fun t read => ?_) fun run gone => ?_)
    · exact Tends.first (h.tends _ inside).1 read
    · exact Backend.goneEnded gone
  | @denied i told call next failure turn =>
    have nothing : (Told.mk call (call.failed failure)).task? = none ∧
        (Told.mk call (call.failed failure)).gone? = none := by
      cases call with
      | get k key => cases k <;> exact ⟨rfl, rfl⟩
      | list | create | update | updateStatus | delete | createWorkload | workloadStatus
        | deleteWorkload => exact ⟨rfl, rfl⟩
    refine allSet later (Settled.more (later _ (List.mem_of_getElem? turn)) (fun t read => ?_) fun run gone => ?_)
    · rw [nothing.1] at read
      cases read
    · rw [nothing.2] at gone
      cases gone

theorem Step.tidy (step : Step w v) (h : w.Tidy) (unspent : w.crew.Unspent) : v.Tidy where
  versioned := step.versioned h.versioned unspent
  tends := step.tends h.tends
  located _ _ := step.located h
  owned _ := (step.carries h unspent).allOwned h
  settled := step.settled h unspent

theorem Run.tidy (run : Run w v) (h : w.Tidy) : v.Tidy ∧ v.crew.Unspent := by
  induction run with
  | start unspent => exact ⟨h, unspent⟩
  | step _ next unspent ih => exact ⟨next.tidy ih.1 ih.2, unspent⟩

theorem emptyTidy (empty : w.store = .empty) (bare : w.workloads.records = .empty)
    (idle : ∀ worker ∈ w.crew.workers, worker = .idle) : w.Tidy where
  versioned := Crew.emptyVersioned empty idle
  tends worker inside := by
    rw [idle worker inside]
    trivial
  located key t stored := by
    rw [empty] at stored
    cases stored
  owned run live := by
    obtain ⟨record, there, -⟩ := live
    rw [bare] at there
    cases there
  settled worker inside := by
    rw [idle worker inside]
    exact settledNothing

end Watch
end Turnstile
