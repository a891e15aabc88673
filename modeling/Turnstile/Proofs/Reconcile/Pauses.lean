import Turnstile.Controller.Tasks
import Turnstile.Proofs.Admission.Requirements
import Turnstile.Proofs.Queue.HandOut
import Turnstile.Proofs.Reconcile.Ending
import Turnstile.Proofs.Reconcile.Heeds
/-! How long a reconcile pauses before it looks again. Most delays have a floor; the configured ones for
blocked and running tasks are handed back as they are. -/
namespace Turnstile
open Procedure Reconcile

namespace Requirement

def blocking : List Requirement := [templateFound, agentNamed, agentFound, namespaceAllowed, workloadAccepted]

theorem unresolvedBlocking {s : Store} {t : Task} {cause : Block} {q : Requirement}
    (unresolved : resolveIn s t = .error cause) (why : q.reason? = some cause.reason) : q ∈ blocking := by
  have search := searched s t
  rw [unresolved] at search
  cases search with
  | noTemplate | unnamed | noAgent | foreign =>
    cases q <;> simp_all [reason?, blocking, Block.templateNotFound, Block.agentNotSpecified,
      Block.agentNotFound, Block.namespaceNotAllowed]

end Requirement

namespace Reconcile

theorem flooredLong (d : Duration) : minRequeue ≤ floored d := Nat.le_max_right ..

theorem zeroShort : ¬ minRequeue ≤ .zero := by decide

/-- A delay with the floor, or one of the two that are configured and have none. -/
def Delays (r : Reconciler) : ReconcileOutcome → Prop
  | .done => True
  | .requeueAfter d => minRequeue ≤ d ∨ d = r.timing.blocked ∨ d = r.timing.running

def Paces (r : Reconciler) (p : Step ReconcileOutcome) : Prop :=
  ∀ told, Heeds (fun _ _ => True) told (fun _ outcome => Delays r outcome) p

section
variable {α : Type} {r : Reconciler} {now : Instant} {task : Task}

namespace Paces

theorem pure {outcome : ReconcileOutcome} (delays : Delays r outcome) : Paces r (Pure.pure outcome) :=
  fun _ => Heeds.pure delays

theorem floored (d : Duration) : Paces r (Pure.pure (.requeueAfter (Reconcile.floored d))) :=
  pure (.inl (flooredLong d))

theorem after {p : Step α} {f : α → Step ReconcileOutcome} (rest : ∀ a, Paces r (f a)) : Paces r (p >>= f) := by
  intro told
  have first : Heeds (fun _ _ => True) told (fun _ _ => True) p :=
    (endsTrue p.run).weaken fun _ _ _ _ _ => trivial
  exact first.andThen fun told a => rest a told

end Paces

theorem blockPaces {cause : Block} : Paces r (block r now task cause) :=
  .after fun _ => .pure (.inr (.inl rfl))

theorem enqueuePaces {w : Wait} {delay : Duration} : Paces r (enqueue now task w delay) :=
  .after fun _ => .floored delay

theorem launchPaces {resolved : Resolved} : Paces r (launch r now task resolved) := by
  refine .after fun reply => ?_
  rcases reply with (cause | cause) | _
  · exact blockPaces
  · exact fun _ => Heeds.throw _
  · exact .after fun _ => .pure (.inr (.inr rfl))

theorem startPaces {resolved : Resolved} : Paces r (start r now task resolved) := by
  rw [startLaunches]
  split
  · exact .after fun _ => launchPaces
  · exact launchPaces

theorem considerPaces : Paces r (consider r now task) := by
  unfold consider
  split
  · exact .floored _
  · refine .after fun found => ?_
    cases found with
    | error cause => exact blockPaces
    | ok resolved =>
      refine .after fun peers => .after fun slots => ?_
      split
      · exact enqueuePaces
      · refine .after fun check => ?_
        split
        · exact enqueuePaces
        · exact startPaces

theorem failPaces {reason : TerminalReason} {container : Option Termination} {message : String} :
    Paces r (fail now task reason container message) :=
  .after fun _ => .pure trivial

theorem handleFailurePaces {run : Key} {container : Option Termination} :
    Paces r (handleFailure r now task run container) := by
  unfold handleFailure
  dsimp only
  split
  · exact .after fun _ => .after fun _ => .floored _
  · exact failPaces

theorem observePaces : Paces r (observe r now task) := by
  unfold observe
  split
  · exact failPaces
  · refine .after fun found => ?_
    cases found with
    | none => exact failPaces
    | some observed =>
      dsimp only
      cases observed.state with
      | pending | running => exact .pure (.inr (.inr rfl))
      | succeeded => exact .after fun _ => .after fun _ => .pure trivial
      | failed => exact handleFailurePaces

theorem stopPaces : Paces r (stop now task) := by
  have ending : Paces r (do
      writeStatus task (stoppedStatus now)
      Pure.pure .done) := .after fun _ => .pure trivial
  unfold stop
  split
  · exact .after fun _ => ending
  · exact ending

theorem stepPaces {key : Key} : Paces r (step r now key) := by
  refine .after fun found => ?_
  cases found with
  | none => exact .pure trivial
  | some task =>
    dsimp only
    split
    · exact .pure trivial
    · split
      · exact stopPaces
      · split
        · exact observePaces
        · exact considerPaces

end

end Reconcile

def Backend.Blocks (b : Backend) (now : Instant) (key : Key) : Prop :=
  ∃ t q, b.store.get? .task key = some t ∧ (t.phase = .pending ∨ t.phase = .queued) ∧
    Requirement.firstUnmet now b t = some q ∧ q ∈ Requirement.blocking

namespace Reconcile
open Requirement

inductive Pause (r : Reconciler) (now : Instant) (b after : Backend) (key : Key) : Duration → Prop where
  | blocked (blocks : b.Blocks now key) (idle : after.phase? key ≠ some .running) :
      Pause r now b after key r.timing.blocked
  | running (free : ¬ b.Blocks now key) (underway : after.phase? key = some .running) :
      Pause r now b after key r.timing.running
  | floored (delay : Duration) (free : ¬ b.Blocks now key) (idle : after.phase? key ≠ some .running) :
      Pause r now b after key (floored delay)

section
variable {r : Reconciler} {now : Instant} {b after : Backend} {t : Task} {key : Key} {d : Duration}
  {outcome : ReconcileOutcome}

theorem meets (stored : b.store.get? .task key = some t)
    (other : ∀ q, firstUnmet now b t = some q → q ∉ blocking) : ¬ b.Blocks now key := by
  rintro ⟨u, q, there, -, first, lacks⟩
  cases stored.symm.trans there
  exact other q first lacks

theorem busy (stored : b.store.get? .task key = some t) (running : t.phase = .running) :
    ¬ b.Blocks now key := by
  rintro ⟨u, q, there, waits, -⟩
  cases stored.symm.trans there
  rw [running] at waits
  rcases waits with waits | waits <;> cases waits

theorem idleAfter {p : Phase} (found : after.phase? key = some p) (idle : p ≠ .running) :
    after.phase? key ≠ some .running := by
  rw [found]
  exact fun same => idle (Option.some.inj same)

theorem Gate.delays (gate : Gate r now b t outcome after) : ∃ d, outcome = .requeueAfter d := by
  cases gate <;> exact ⟨_, rfl⟩

theorem Gate.pause (gate : Gate r now b t (.requeueAfter d) after)
    (stored : b.store.get? .task t.key = some t) (waits : t.phase = .pending ∨ t.phase = .queued) :
    Pause r now b after t.key d := by
  have idle : t.phase ≠ .running := by
    rcases waits with waits | waits <;> rw [waits] <;> decide
  have first {q p : Requirement} (unmet : firstUnmet now b t = some q) (other : q ∉ blocking)
      (same : firstUnmet now b t = some p) : p ∉ blocking := by
    cases unmet.symm.trans same
    exact other
  -- each gate is at its own first unmet requirement, and only the blocking ones take the configured delay
  cases gate with
  | backingOff early =>
    exact .floored _ (meets stored fun _ => first (earlyUnmet early) (by decide))
      (idleAfter (phaseStored stored) idle)
  | blocked due unresolved =>
    obtain ⟨q, unmet, why⟩ := unresolvedUnmet due unresolved
    exact .blocked ⟨t, q, stored, waits, unmet, unresolvedBlocking unresolved why⟩
      (idleAfter (Backend.notedPhase stored rfl) idle)
  | crowded due found full =>
    obtain ⟨slot, -⟩ := limitsMet now found
    have unmet : firstUnmet now b t = some slotFree := by simp [resolvedUnmet due found, slot, full]
    exact .floored _ (meets stored fun _ => first unmet (by decide))
      (idleAfter (Backend.notedPhase stored rfl) nofun)
  | overQuota due found room spent =>
    obtain ⟨slot, start, -⟩ := limitsMet now found
    have unmet : firstUnmet now b t = some startFree := by
      simp [resolvedUnmet due found, slot, room, start, spent]
    exact .floored _ (meets stored fun _ => first unmet (by decide))
      (idleAfter (Backend.notedPhase stored rfl) nofun)
  | refused due found room allowance blank =>
    obtain ⟨slot, start, accepted⟩ := limitsMet now found
    have unmet : firstUnmet now b t = some workloadAccepted := by
      simp [resolvedUnmet due found, slot, room, start, allowance, accepted, blank]
    have cleared : (clearedFor b t).store.get? .task t.key = some t := by
      rw [clearedStore]
      exact stored
    exact .blocked ⟨t, _, stored, waits, unmet, by decide⟩ (idleAfter (Backend.notedPhase cleared rfl) idle)
  | started due found room allowance image =>
    obtain ⟨slot, start, accepted⟩ := limitsMet now found
    have none_ : firstUnmet now b t = none := by
      simp [resolvedUnmet due found, slot, room, start, allowance, accepted, image]
    exact .running (meets stored fun q unmet => by rw [none_] at unmet; cases unmet)
      (Backend.startedPhase stored _)

theorem Look.pause (look : Look r now b t (.requeueAfter d) after)
    (stored : b.store.get? .task t.key = some t) (running : t.phase = .running) :
    Pause r now b after t.key d := by
  have there (own : Key) : (polled now b own).store.get? .task t.key = some t := stored
  cases look with
  | @running own =>
    refine .running (busy stored running) ?_
    rw [phaseStored (there own), running]
  | @retried own _ delay =>
    have removedPhase (after : Backend) : (removed after own).phase? t.key = after.phase? t.key := rfl
    refine .floored delay (busy stored running) ?_
    rw [removedPhase]
    exact idleAfter (Backend.notedPhase (there own) rfl) nofun

theorem Visit.pause (visit : Visit r now b key (.requeueAfter d) after) : Pause r now b after key d := by
  cases visit with
  | observed stored _ running look =>
    have own := b.store.tasks.keyed stored
    subst own
    exact look.pause stored running
  | @considered t _ _ stored _ active idle gate =>
    have own := b.store.tasks.keyed stored
    subst own
    refine gate.pause stored ?_
    cases phase : t.phase with
    | pending => exact .inl rfl
    | queued => exact .inr rfl
    | running => exact absurd phase idle
    | completed | failed =>
      rw [phase] at active
      cases active

end

end Reconcile
open Reconcile

def Config.Hurries (c : Config) (now : Instant) (b after : Backend) (key : Key) : Prop :=
  (c.controller.blockedRequeueSecs = 0 ∧ b.Blocks now key) ∨
    (c.controller.runningPollSecs = 0 ∧ after.phase? key = some .running)

section
variable {c : Config} {now : Instant} {b after : Backend} {key : Key} {d : Duration}

theorem secondsZero (n : UInt64) : Duration.ofSeconds n.toNat = .zero ↔ n = 0 := by
  rw [← UInt64.toNat_inj]
  simp only [Duration.ofSeconds, Duration.zero, Duration.mk.injEq, UInt64.toNat_zero]
  omega

theorem secondsLong {n : UInt64} (long : n ≠ 0) : minRequeue ≤ Duration.ofSeconds n.toNat := by
  have positive : n.toNat ≠ 0 := fun zero => long (UInt64.toNat_inj.mp zero)
  change 1 * 1000000000 ≤ n.toNat * 1000000000
  omega

theorem secondsFloored (n : UInt64) : minRequeue ≤ Duration.ofSeconds n.toNat ∨ Duration.ofSeconds n.toNat = .zero := by
  by_cases zero : n = 0
  · exact .inr ((secondsZero n).mpr zero)
  · exact .inl (secondsLong zero)

theorem longNotZero (long : minRequeue ≤ d) : d ≠ .zero := by
  rintro rfl
  exact zeroShort long

theorem Reconcile.Pause.hurried (pause : Pause c.reconciler now b after key d) :
    (minRequeue ≤ d ∨ d = .zero) ∧ (d = .zero ↔ c.Hurries now b after key) := by
  unfold Config.Hurries
  cases pause with
  | blocked blocks idle =>
    refine ⟨secondsFloored _, (secondsZero _).trans ⟨fun zero => .inl ⟨zero, blocks⟩, ?_⟩⟩
    rintro (⟨zero, -⟩ | ⟨-, underway⟩)
    · exact zero
    · exact absurd underway idle
  | running free underway =>
    refine ⟨secondsFloored _, (secondsZero _).trans ⟨fun zero => .inr ⟨zero, underway⟩, ?_⟩⟩
    rintro (⟨-, blocks⟩ | ⟨zero, -⟩)
    · exact absurd blocks free
    · exact zero
  | floored delay free idle =>
    refine ⟨.inl (flooredLong delay), iff_of_false (longNotZero (flooredLong delay)) ?_⟩
    rintro (⟨-, blocks⟩ | ⟨-, underway⟩)
    · exact free blocks
    · exact idle underway

theorem waitingPauses {t : Task} (stored : b.store.get? .task key = some t)
    (waits : t.phase = .pending ∨ t.phase = .queued) (free : t.stopRequested = false) (r : Reconciler)
    (now : Instant) :
    ∃ d, ((r.reconcile now key).run now b).1 = .ok (.requeueAfter d) ∧
      Pause r now b ((r.reconcile now key).run now b).2 key d := by
  obtain ⟨outcome, given, visit⟩ := reconcileVisits r now b key
  obtain ⟨d, rfl⟩ := (visit.gate stored waits free).delays
  exact ⟨d, given, visit.pause⟩

theorem TaskController.settleReady {q : WorkQueue Key} (running : q.isShutdown = false) (clock : Duration)
    (absent : key ∉ q.ready) (clean : key ∉ q.dirty) :
    key ∈ (settle clock key (.ok (.requeueAfter d)) q).ready ↔ d = .zero := by
  have marked {q' : WorkQueue Key} (running : q'.isShutdown = false) (dirty : key ∈ q'.dirty) :
      key ∈ (q'.release key).ready := by
    rcases WorkQueue.releaseCases (k := key) running with ⟨-, same⟩ | ⟨clean, -⟩
    · rw [same]
      exact List.mem_append_right _ (List.mem_singleton.mpr rfl)
    · exact absurd dirty clean
  change key ∈ ((q.addAfter clock key d).release key).ready ↔ d = .zero
  rcases WorkQueue.addAfterCases running clock key d with ⟨zero, same⟩ | ⟨waits, delayed, same, -⟩
  · refine iff_of_true ?_ zero
    rw [same]
    rcases WorkQueue.addCases (k := key) running with ⟨dirty, -⟩ | ⟨-, -, same⟩ | ⟨-, -, same⟩
    · exact absurd dirty clean
    · exact marked (by rw [same]; exact running) (by rw [same]; exact List.mem_cons_self)
    · exact marked (by rw [same]; exact running) (by rw [same]; exact List.mem_cons_self)
  · refine iff_of_false ?_ waits
    rw [same]
    rcases WorkQueue.releaseCases (q := { q with delayed }) (k := key) running with ⟨dirty, -⟩ | ⟨-, same⟩
    · exact absurd dirty clean
    · rw [same]
      exact absent

end

def Backend.orphan : Backend := (empty.perform default (.create .task (Task.bare ⟨"ns", "task"⟩ "agent"))).2

theorem pendingFound {b : Backend} {key : Key} {now : Instant} {unmet : Option Requirement}
    (facts : (b.store.get? .task key).map (fun t => (t.phase, t.stopRequested, Requirement.firstUnmet now b t)) =
      some (.pending, false, unmet)) :
    ∃ t, b.store.get? .task key = some t ∧ t.phase = .pending ∧ t.stopRequested = false ∧
      Requirement.firstUnmet now b t = unmet := by
  obtain ⟨t, stored, facts⟩ := Option.map_eq_some_iff.mp facts
  exact ⟨t, stored, by simpa only [Prod.mk.injEq] using facts⟩

theorem orphanBlocked : ∃ t, Backend.orphan.store.get? .task ⟨"ns", "task"⟩ = some t ∧ t.phase = .pending ∧
    t.stopRequested = false ∧ Requirement.firstUnmet default .orphan t = some .agentFound :=
  pendingFound (by decide +kernel)

theorem loneMeets : ∃ t, (Backend.lone (Agent.bare ⟨"ns", "agent"⟩ none) ⟨"ns", "task"⟩).store.get? .task
      ⟨"ns", "task"⟩ = some t ∧ t.phase = .pending ∧ t.stopRequested = false ∧
    Requirement.firstUnmet default (.lone (Agent.bare ⟨"ns", "agent"⟩ none) ⟨"ns", "task"⟩) t = none :=
  pendingFound (by decide +kernel)

/-- The delays of a reconcile have a floor of a second, except that the intervals for blocked and running
tasks are taken as configured. A delay below it is one of zero, asked for exactly if the interval that
applies is zero, and puts the task in line again at once; none is, whatever is stored, exactly if both
intervals are set. -/
theorem pausesFloored (c : Config) :
    (∀ now key told, Ends (fun _ result => ∀ d, result = .ok (.requeueAfter d) →
      minRequeue ≤ d ∨ d = c.timing.blocked ∨ d = c.timing.running) told (c.reconciler.reconcile now key)) ∧
    (∀ now b key d, ((c.reconciler.reconcile now key).run now b).1 = .ok (.requeueAfter d) →
      (minRequeue ≤ d ∨ d = .zero) ∧
      (d = .zero ↔ c.Hurries now b ((c.reconciler.reconcile now key).run now b).2 key) ∧
      ∀ (clock : Duration) (q : WorkQueue Key), q.isShutdown = false → key ∉ q.ready → key ∉ q.dirty →
        (key ∈ (TaskController.settle clock key (.ok (.requeueAfter d)) q).ready ↔ d = .zero)) ∧
    ((∀ now b key d, ((c.reconciler.reconcile now key).run now b).1 = .ok (.requeueAfter d) →
      minRequeue ≤ d) ↔ c.controller.blockedRequeueSecs ≠ 0 ∧ c.controller.runningPollSecs ≠ 0) := by
  have paused {now b key d} (given : ((c.reconciler.reconcile now key).run now b).1 = .ok (.requeueAfter d)) :
      Pause c.reconciler now b ((c.reconciler.reconcile now key).run now b).2 key d := by
    obtain ⟨outcome, same, visit⟩ := reconcileVisits c.reconciler now b key
    cases Except.ok.inj (given.symm.trans same)
    exact visit.pause
  refine ⟨fun now key told => ?_, fun now b key d given => ?_, fun floored => ?_, fun set now b key d given => ?_⟩
  · exact Obeys.weaken (stepPaces told) fun _ result delays d same => delays _ same
  · obtain ⟨either, exactly⟩ := (paused given).hurried
    exact ⟨either, exactly, fun clock q running => TaskController.settleReady running clock⟩
  · refine ⟨fun zero => ?_, fun zero => ?_⟩
    · obtain ⟨t, stored, pending, free, unmet⟩ := orphanBlocked
      obtain ⟨d, given, pause⟩ := waitingPauses stored (.inl pending) free c.reconciler default
      refine longNotZero (floored _ _ _ _ given) (pause.hurried.2.mpr (.inl ⟨zero, ?_⟩))
      exact ⟨t, _, stored, .inl pending, unmet, by decide⟩
    · obtain ⟨t, stored, pending, free, unmet⟩ := loneMeets
      obtain ⟨d, given, pause⟩ := waitingPauses stored (.inl pending) free c.reconciler default
      refine longNotZero (floored _ _ _ _ given) (pause.hurried.2.mpr (.inr ⟨zero, ?_⟩))
      exact (startedIfMet stored (.inl pending) free c.reconciler default).1.mpr (Requirement.noneUnmet.mp unmet)
  · obtain ⟨either, exactly⟩ := (paused given).hurried
    rcases either with long | zero
    · exact long
    · rcases exactly.mp zero with ⟨unset, -⟩ | ⟨unset, -⟩
      · exact absurd unset set.1
      · exact absurd unset set.2

theorem pauseMissed : ¬ ∀ (c : Config) (now : Instant) (b : Backend) (key : Key) (d : Duration),
    ((c.reconciler.reconcile now key).run now b).1 = .ok (.requeueAfter d) → minRequeue ≤ d := by
  intro claim
  let c := { Config.standard with controller := { ControllerConfig.standard with blockedRequeueSecs := 0 } }
  obtain ⟨t, stored, pending, free, unmet⟩ := orphanBlocked
  obtain ⟨d, given, pause⟩ := waitingPauses stored (.inl pending) free c.reconciler default
  refine longNotZero (claim c _ _ _ d given) (pause.hurried.2.mpr (.inl ⟨rfl, ?_⟩))
  exact ⟨t, _, stored, .inl pending, unmet, by decide⟩

end Turnstile
