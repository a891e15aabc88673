import Turnstile.Faults
import Turnstile.Proofs.Admission.Overlap
import Turnstile.Proofs.Reconcile.Writes
import Turnstile.Proofs.Store.Copies
/-! The life of a task while workers reconcile it side by side and others write. A
worker judges a phase by the task that it read; the version on its write makes that
the task that is stored. -/
namespace Turnstile

namespace Store
variable {s : Store} {o t : Task} {key : Key}

theorem statusTaken (s : Store) (o : Task) :
    ((∃ e, (s.updateStatus .task o).1 = .error e) ∧
      ∀ key, (s.updateStatus .task o).2.get? .task key = s.get? .task key) ∨
    ∃ current stored, s.get? .task o.key = some current ∧
      (Kind.task.version o = 0 ∨ Kind.task.version o = Kind.task.version current) ∧
      (s.updateStatus .task o).1 = .ok stored ∧ stored.key = o.key ∧ stored.status = o.status ∧
      (s.updateStatus .task o).2.get? .task o.key = some stored ∧
      ∀ key, key ≠ o.key → (s.updateStatus .task o).2.get? .task key = s.get? .task key := by
  have reply : (s.updateStatus .task o).1 =
    (s.tasks.replace (s.version + 1) 0 Kind.task.takeStatus o).1 := rfl
  have after : ∀ key, (s.updateStatus .task o).2.get? .task key =
    (s.tasks.replace (s.version + 1) 0 Kind.task.takeStatus o).2.objects.get? key := fun _ => rfl
  rcases s.tasks.replaceCases (s.version + 1) 0 Kind.task.takeStatus o with
    ⟨e, refused⟩ | ⟨current, found, agreed, done⟩
  · refine .inl ⟨⟨e, by rw [reply, refused]⟩, fun key => ?_⟩
    rw [after, refused]
    rfl
  · have read : current.key = o.key := s.tasks.keyed found
    have own : Kind.task.key (Collection.laterWrite (s.version + 1) 0 current
        (Kind.task.takeStatus current o)) = o.key := read
    refine .inr ⟨current, _, found, agreed, by rw [reply, done], own, rfl, ?_, fun key other => ?_⟩
    · rw [after, done, ← own]
      exact Collection.putSame s.tasks _
    · rw [after, done]
      exact Collection.putOther s.tasks (by rw [own]; exact other)

theorem statusWritten (after : (s.updateStatus .task o).2.get? .task key = some t) :
    s.get? .task key = some t ∨ ∃ current, key = o.key ∧ s.get? .task key = some current ∧
      (Kind.task.version o = 0 ∨ Kind.task.version o = Kind.task.version current) ∧
      t.status = o.status := by
  rcases s.statusTaken o with ⟨-, kept⟩ | ⟨current, stored, found, agreed, -, -, status, written, others⟩
  · exact .inl ((kept key).symm.trans after)
  · by_cases own : key = o.key
    · subst own
      rw [written] at after
      cases after
      exact .inr ⟨current, rfl, found, agreed, status⟩
    · exact .inl ((others key own).symm.trans after)

end Store

namespace Backend
variable {b : Backend} {now : Instant} {c : Call} {key : Key} {t : Task}

theorem taskAnswered (read : (Told.mk c (b.perform now c).1).task? = some t) :
    b.store.get? .task t.key = some t := by
  unfold Told.task? at read
  split at read
  · rename_i same
    cases read
    exact getAnswered same
  · cases read

end Backend

namespace Worker

def Writes : Worker → Prop
  | idle => True
  | busy told rest => Procedure.Obeys (fun told => Reconcile.MayWrite (told.filterMap Told.task?))
      (fun _ result => Reconcile.Sound result) told rest

def Informed (s : Store) : Worker → Prop
  | idle => True
  | busy told _ => ∀ t ∈ told.filterMap Told.task?, s.Copied .task t

end Worker

namespace Crew
variable {c d : Crew} {key : Key} {old t : Task}

/-- What may happen while none but the workers write the status of a task that is there:
a step of the crew, a task made with whatever status, or a call that fails. -/
inductive Stir : Crew → Crew → Prop where
  | step {c d : Crew} (next : Step c d) : Stir c d
  | made (c : Crew) (now : Instant) (task : Task) :
      Stir c { c with backend := (c.backend.perform now (.create .task task)).2 }
  | denied (c : Crew) {i : Nat} {told : List Told} {call : Call}
      {next : call.Reply → Procedure (Except ReconcileError ReconcileOutcome)} (failure : Failure)
      (turn : c.workers[i]? = some (.busy told (.call call next))) :
      Stir c { c with workers := c.workers.set i (.busy (told ++ [⟨call, call.failed failure⟩])
        (next (call.failed failure))) }

inductive Course (always : Crew → Prop) : Crew → Crew → Prop where
  | start {c : Crew} (holds : always c) : Course always c c
  | stir {c d e : Crew} (past : Course always c d) (next : Stir d e) (holds : always e) : Course always c e

abbrev Unspent (c : Crew) : Prop := c.backend.Unspent

structure Versioned (c : Crew) : Prop where
  stored : ∀ key t, c.backend.store.get? .task key = some t → c.backend.store.Copied .task t
  informed : ∀ w ∈ c.workers, w.Informed c.backend.store
  writes : ∀ w ∈ c.workers, w.Writes

theorem Versioned.performed (h : Versioned c) (unspent : c.Unspent) (now : Instant) (call : Call) :
    Versioned { c with backend := (c.backend.perform now call).2 } where
  stored key t := Backend.storedCopied h.stored unspent
  informed w inside := by
    cases w with
    | idle => trivial
    | busy told rest => exact fun t known => Backend.copiedLater (h.informed _ inside t known) unspent
  writes := h.writes

theorem Versioned.turned {i : Nat} {w : Worker} (h : Versioned c) (informed : w.Informed c.backend.store)
    (writes : w.Writes) : Versioned { c with workers := c.workers.set i w } :=
  ⟨h.stored, allSet h.informed informed, allSet h.writes writes⟩

theorem Step.versioned (step : Step c d) (h : Versioned c) (unspent : c.Unspent) : Versioned d := by
  cases step with
  | taken r now key free =>
    exact h.turned (by simp [Worker.Informed]) (Reconcile.reconcileWrites r now key)
  | @asked i told call next now turn =>
    have inside := List.mem_of_getElem? turn
    have after := h.performed unspent now call
    refine after.turned ?_ ((h.writes _ inside).2 _)
    intro t known
    rw [List.filterMap_append, List.mem_append] at known
    rcases known with before | answered
    · exact after.informed _ inside t before
    · have answered : (Told.mk call (c.backend.perform now call).1).task? = some t := by
        simpa using answered
      exact Backend.copiedLater (h.stored _ t (Backend.taskAnswered answered)) unspent
  | ended turn => exact h.turned trivial trivial
  | written now call leaves => exact h.performed unspent now call
  | worked => exact ⟨h.stored, h.informed, h.writes⟩

theorem Stir.versioned (stir : Stir c d) (h : Versioned c) (unspent : c.Unspent) : Versioned d := by
  cases stir with
  | step next => exact next.versioned h unspent
  | made now task => exact h.performed unspent now _
  | @denied i told call next failure turn =>
    have inside := List.mem_of_getElem? turn
    have nothing : (Told.mk call (call.failed failure)).task? = none := by
      cases call with
      | get k key => cases k <;> rfl
      | list | create | update | updateStatus | delete | createWorkload | workloadStatus
        | deleteWorkload => rfl
    refine h.turned ?_ ((h.writes _ inside).2 _)
    intro t known
    rw [List.filterMap_append, List.mem_append] at known
    exact h.informed _ inside t (by simpa [nothing] using known)

theorem Course.versioned {always : Crew → Prop} (course : Course always c d)
    (unspent : ∀ e, always e → Unspent e) (h : Versioned c) : Versioned d ∧ always d := by
  induction course with
  | start holds => exact ⟨h, holds⟩
  | stir _ next holds ih => exact ⟨next.versioned ih.1 (unspent _ ih.2), holds⟩

theorem emptyVersioned (empty : c.backend.store = .empty) (idle : ∀ w ∈ c.workers, w = .idle) :
    Versioned c := by
  refine ⟨fun key t stored => ?_, fun w inside => ?_, fun w inside => ?_⟩
  · rw [empty] at stored
    cases stored
  · rw [idle w inside]
    trivial
  · rw [idle w inside]
    trivial

theorem Step.moves (step : Step c d) (h : Versioned c)
    (before : c.backend.store.get? .task key = some old)
    (after : d.backend.store.get? .task key = some t) : t.status = old.status ∨ old.MayTake t.status := by
  have kept : d.backend.store = c.backend.store → t.status = old.status := by
    intro same
    rw [same, before] at after
    cases after
    rfl
  have restated : ∀ {now : Instant} {call : Call}, call.LeavesStatus →
      (c.backend.perform now call).2.store.get? .task key = some t → t.status = old.status := by
    intro now call leaves found
    rcases Backend.performLeaves leaves found with ⟨absent, -⟩ | ⟨same, stored, status⟩
    · rw [before] at absent
      cases absent
    · rw [before] at stored
      cases stored
      exact status
  cases step with
  | taken | ended | worked => exact .inl (kept rfl)
  | written now call leaves => exact .inl (restated leaves after)
  | @asked i told call next now turn =>
    have inside := List.mem_of_getElem? turn
    have may := (h.writes _ inside).1
    cases call with
    | create | update | delete => exact may.elim
    | get | list | createWorkload | workloadStatus | deleteWorkload => exact .inl (kept rfl)
    | updateStatus k o =>
      cases k with
      | agent | template | trigger | secret => exact may.elim
      | task =>
        obtain ⟨task, known, next, rfl, takes⟩ := may
        have copied := h.informed _ inside task known
        rcases Store.statusWritten after with same | ⟨current, own, stored, agreed, status⟩
        · rw [before] at same
          cases same
          exact .inl rfl
        · rw [before] at stored
          cases stored
          -- the version on the write makes what is stored the task that was read
          have version := agreed.resolve_left copied.numbered
          have read : old = task := by
            rw [own] at before
            exact copied.current old before version.symm
          rw [status, read]
          exact .inr takes

theorem Stir.moves (stir : Stir c d) (h : Versioned c)
    (before : c.backend.store.get? .task key = some old)
    (after : d.backend.store.get? .task key = some t) : t.status = old.status ∨ old.MayTake t.status := by
  cases stir with
  | step next => exact next.moves h before after
  | denied =>
    rw [before] at after
    cases after
    exact .inl rfl
  | made now task =>
    rcases (c.backend.performTasks now (.create .task task)).found after with
      ⟨o, -, vacant, -⟩ | ⟨same, stored, status⟩ | ⟨o, same, impossible, -⟩
    · rw [show c.backend.store.tasks.objects.get? key = some old from before] at vacant
      cases vacant
    · rw [show c.backend.store.tasks.objects.get? key = some old from before] at stored
      cases stored
      exact .inl status
    · cases impossible

theorem Course.ended {always : Crew → Prop} (course : Course always c d)
    (unspent : ∀ e, always e → Unspent e)
    (there : ∀ e, always e → ∃ t, e.backend.store.get? .task key = some t) (h : Versioned c)
    (before : c.backend.store.get? .task key = some old) (terminal : old.phase.isTerminal = true)
    (after : d.backend.store.get? .task key = some t) : t.status = old.status := by
  induction course generalizing t with
  | start =>
    rw [before] at after
    cases after
    rfl
  | stir past next holds ih =>
    obtain ⟨versioned, still⟩ := past.versioned unspent h
    obtain ⟨middle, found⟩ := there _ still
    have same : middle.status = old.status := ih found
    rcases next.moves versioned found after with kept | takes
    · exact kept.trans same
    · have active := takes.active
      rw [Task.phase, same] at active
      exact absurd terminal (by rw [Task.phase, active]; exact Bool.false_ne_true)

/-- Whatever the workers and the others do to a store that was empty, while its counter
lasts: the phase of a task that is there only ever moves to one of its successors; once
it has ended, its whole status stays until it is deleted; and no reconcile ends with a
transition refused. -/
theorem lifecycleKept {start : Crew} (empty : start.backend.store = .empty)
    (idle : ∀ w ∈ start.workers, w = .idle) (past : Course Unspent start c) :
    (∀ d key old t, Stir c d → c.backend.store.get? .task key = some old →
      d.backend.store.get? .task key = some t → t.phase ≠ old.phase →
      t.phase ∈ old.phase.successors) ∧
    (∀ d key old t, Course (fun e => Unspent e ∧ ∃ t, e.backend.store.get? .task key = some t) c d →
      c.backend.store.get? .task key = some old → old.phase.isTerminal = true →
      d.backend.store.get? .task key = some t → t.status = old.status) ∧
    (∀ told result, .busy told (.done result) ∈ c.workers →
      ∀ key phase next, result ≠ .error (.invalidTransition key phase next)) := by
  obtain ⟨h, -⟩ := past.versioned (fun _ unspent => unspent) (emptyVersioned empty idle)
  refine ⟨fun d key old t stir before after moved => ?_,
    fun d key old t course => course.ended (fun _ holds => holds.1) (fun _ holds => holds.2) h,
    fun told result finished => h.writes _ finished⟩
  rcases stir.moves h before after with kept | takes
  · exact absurd (by rw [Task.phase, Task.phase, kept]) moved
  · exact (Phase.canBecomeIff.mp takes.follows).resolve_left fun same => moved same.symm

theorem turnSpends (now : Instant) (i : Nat) (unspent : c.Unspent) :
    (c.turn now i).backend.store.version.toNat ≤ c.backend.store.version.toNat + 1 := by
  unfold turn
  split
  · exact Backend.performSpends now _ unspent
  · exact Nat.le_succ _
  · exact Nat.le_succ _

theorem turnStir (now : Instant) (i : Nat) : c.turn now i = c ∨ Stir c (c.turn now i) := by
  unfold turn
  split
  · rename_i turn
    exact .inr (.step (.asked c now turn))
  · rename_i turn
    exact .inr (.step (.ended c turn))
  · exact .inl rfl

theorem turnsCourse {start : Crew} (now : Instant) (turns : List Nat) (course : Course Unspent start c)
    (room : c.backend.store.version.toNat + turns.length + 1 < UInt64.size) :
    Course Unspent start (turns.foldl (turn now) c) := by
  induction turns generalizing c with
  | nil => exact course
  | cons i rest ih =>
    rw [List.length_cons] at room
    have unspent : c.Unspent := by
      unfold Unspent Backend.Unspent
      omega
    have spends := turnSpends now i unspent
    refine ih ?_ (by omega)
    rcases turnStir (c := c) now i with same | stir
    · rw [same]
      exact course
    · refine .stir course stir ?_
      unfold Unspent Backend.Unspent
      omega

def rivals (now : Instant) (agent task : Key) : Crew where
  backend := ((Backend.empty.perform now (.create .agent (Agent.bare agent none))).2.perform now
    (.create .task (Task.bare task agent.name))).2
  workers := [.busy [] (Reconciler.bare.reconcile now task), .busy [] (Reconciler.bare.reconcile now task)]

theorem rivalsCourse (now : Instant) (agent task : Key) (turns : List Nat)
    (room : (rivals now agent task).backend.store.version.toNat + turns.length + 1 < UInt64.size)
    (unspent : (Backend.empty.perform now (.create .agent (Agent.bare agent none))).2.Unspent) :
    Course Unspent ⟨.empty, [.idle, .idle]⟩ (turns.foldl (turn now) (rivals now agent task)) := by
  have full : (rivals now agent task).Unspent := by
    unfold Unspent Backend.Unspent
    omega
  have nothing : Course Unspent ⟨.empty, [.idle, .idle]⟩ ⟨.empty, [.idle, .idle]⟩ := .start (by decide)
  have made := Course.stir nothing
    (.step (.written _ now (.create .agent (Agent.bare agent none)) trivial)) unspent
  have both := Course.stir made (.step (.written _ now (.create .task (Task.bare task agent.name)) rfl)) full
  have one := Course.stir both (.step (.taken _ (i := 0) Reconciler.bare now task rfl)) full
  have two := Course.stir one (.step (.taken _ (i := 1) Reconciler.bare now task rfl)) full
  exact turnsCourse now turns two room

def rivalsRead : Crew :=
  [0, 0, 0, 0, 1, 1, 1, 1].foldl (turn default) (rivals default ⟨"ns", "agent"⟩ ⟨"ns", "task"⟩)

theorem rivalStarts : ∃ old t, rivalsRead.backend.store.get? .task ⟨"ns", "task"⟩ = some old ∧
    (rivalsRead.turn default 0).backend.store.get? .task ⟨"ns", "task"⟩ = some t ∧
    t.phase = .running ∧ t.phase ∈ old.phase.successors := by
  have before : (rivalsRead.backend.store.get? .task ⟨"ns", "task"⟩).map Task.phase = some .pending := by
    decide +kernel
  have after : ((rivalsRead.turn default 0).backend.store.get? .task ⟨"ns", "task"⟩).map Task.phase =
    some .running := by decide +kernel
  obtain ⟨old, stored, pending⟩ := Option.map_eq_some_iff.mp before
  obtain ⟨t, found, running⟩ := Option.map_eq_some_iff.mp after
  have moved : t.phase ≠ old.phase := by
    rw [pending, running]
    decide
  have course := rivalsCourse default ⟨"ns", "agent"⟩ ⟨"ns", "task"⟩ [0, 0, 0, 0, 1, 1, 1, 1]
    (by decide +kernel) (by decide +kernel)
  rcases turnStir (c := rivalsRead) default 0 with same | stir
  · rw [same, stored] at found
    cases found
    exact absurd rfl moved
  · exact ⟨old, t, stored, found, running,
      (lifecycleKept rfl (by simp) course).1 _ _ old t stir stored found moved⟩

end Crew
end Turnstile
