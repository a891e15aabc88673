import Turnstile.Proofs.Admission.Worker
/-! Workers that reconcile side by side. Any worker makes the next call of its
reconcile, at any time, and others write between any two calls. A step lands what
it starts, so the running tasks and the admissions in flight are counted as one. -/
namespace Turnstile
open Reconcile

structure Crew where
  backend : Backend
  workers : List Worker

namespace Crew

/-- What may happen next: a worker takes a key, makes one call or ends; others
write anything but statuses, and workloads change. -/
inductive Step : Crew → Crew → Prop where
  | taken (c : Crew) {i : Nat} (r : Reconciler) (now : Instant) (key : Key)
      (free : c.workers[i]? = some .idle) :
      Step c { c with workers := c.workers.set i (.busy [] (r.reconcile now key)) }
  | asked (c : Crew) {i : Nat} {told : List Told} {call : Call}
      {next : call.Reply → Procedure (Except ReconcileError ReconcileOutcome)} (now : Instant)
      (turn : c.workers[i]? = some (.busy told (.call call next))) :
      Step c {
        backend := (c.backend.perform now call).2
        workers := c.workers.set i (.busy (told ++ [⟨call, (c.backend.perform now call).1⟩])
          (next (c.backend.perform now call).1)) }
  | ended (c : Crew) {i : Nat} {told : List Told} {result : Except ReconcileError ReconcileOutcome}
      (turn : c.workers[i]? = some (.busy told (.done result))) :
      Step c { c with workers := c.workers.set i .idle }
  | written (c : Crew) (now : Instant) (call : Call) (leaves : call.LeavesStatus) :
      Step c { c with backend := (c.backend.perform now call).2 }
  | worked (c : Crew) (workloads : Workloads) :
      Step c { c with backend := { c.backend with workloads } }

inductive Reachable : Crew → Prop where
  | start {c : Crew} (empty : c.backend.store = .empty) (idle : ∀ w ∈ c.workers, w = .idle) : Reachable c
  | step {c d : Crew} (past : Reachable c) (next : Step c d) : Reachable d

inductive Run (always : Crew → Prop) : Crew → Crew → Prop where
  | start {c : Crew} (holds : always c) : Run always c c
  | step {c d e : Crew} (past : Run always c d) (next : Step d e) (holds : always e) : Run always c e

def running (c : Crew) (agent : Key) : Nat := c.backend.store.running agent

def inFlight (c : Crew) (agent : Key) (limit : UInt32) : Nat :=
  c.workers.countP (Worker.inFlight agent limit)

def Limited (agent : Key) (limit : UInt32) (c : Crew) : Prop :=
  ∀ a, c.backend.store.get? .agent agent = some a → a.spec.maxConcurrentTasks = some limit

structure Orderly (c : Crew) : Prop where
  recorded : c.backend.store.tasks.Recorded
  obeys : ∀ w ∈ c.workers, w.Obeys

def Informed (agent : Key) (limit : UInt32) (c : Crew) : Prop := ∀ w ∈ c.workers, w.Under agent limit

end Crew

theorem countSet {α : Type} {l : List α} {i : Nat} {old : α} (p : α → Bool) (new : α)
    (there : l[i]? = some old) :
    (l.set i new).countP p + (if p old then 1 else 0) = l.countP p + if p new then 1 else 0 := by
  obtain ⟨within, rfl⟩ := List.getElem?_eq_some_iff.mp there
  rw [List.countP_set within]
  have least : (if p l[i] then 1 else 0) ≤ l.countP p := by
    split
    · rename_i holds
      exact List.countP_pos_iff.mpr ⟨l[i], List.getElem_mem within, holds⟩
    · exact Nat.zero_le _
  omega

theorem allSet {α : Type} {l : List α} {i : Nat} {new : α} {p : α → Prop} (all : ∀ a ∈ l, p a)
    (holds : p new) : ∀ a ∈ l.set i new, p a := by
  intro a inside
  rcases List.mem_or_eq_of_mem_set inside with before | rfl
  · exact all a before
  · exact holds

namespace Crew
variable {agent : Key} {limit : UInt32} {c d e : Crew}

theorem Step.size (step : Step c d) : d.workers.length = c.workers.length := by
  cases step <;> simp

theorem Step.orderly (step : Step c d) (h : Orderly c) : Orderly d := by
  cases step with
  | taken r now key free => exact ⟨h.recorded, allSet h.obeys (reconcileObeys r now key)⟩
  | @asked i told call next now turn =>
    obtain ⟨may, obeys⟩ := h.obeys _ (List.mem_of_getElem? turn)
    refine ⟨?_, allSet h.obeys (obeys _)⟩
    refine (c.backend.performTasks now call).recorded h.recorded ?_
    rcases mayWrite may with leaves | ⟨o, asked, admitted⟩
    · exact .inl leaves
    · refine .inr ⟨o, asked, fun running => ?_⟩
      obtain ⟨a, known, -⟩ := admitted running
      rw [known]
      rfl
  | ended turn => exact ⟨h.recorded, allSet h.obeys trivial⟩
  | written now call leaves =>
    exact ⟨(c.backend.performTasks now call).recorded h.recorded (.inl leaves), h.obeys⟩
  | worked => exact ⟨h.recorded, h.obeys⟩

theorem Reachable.orderly (past : Reachable c) : Orderly c := by
  induction past with
  | start empty idle =>
    refine ⟨fun key t stored => ?_, fun w inside => ?_⟩
    · rw [empty] at stored
      cases stored
    · rw [idle w inside]
      trivial
  | step _ next ih => exact next.orderly ih

theorem Step.informed (step : Step c d) (h : Informed agent limit c) (limited : Limited agent limit c) :
    Informed agent limit d := by
  cases step with
  | taken r now key free => exact allSet h nofun
  | asked now turn => exact allSet h (Worker.underAsked (h _ (List.mem_of_getElem? turn)) limited)
  | ended turn => exact allSet h trivial
  | written now call leaves => exact h
  | worked => exact h

theorem idleInformed (idle : ∀ w ∈ c.workers, w = .idle) : Informed agent limit c := by
  intro w inside
  rw [idle w inside]
  trivial

theorem inFlightTurned {i : Nat} {old new : Worker} (turn : c.workers[i]? = some old)
    (turned : d.workers = c.workers.set i new) :
    d.inFlight agent limit + (if old.inFlight agent limit then 1 else 0) =
      c.inFlight agent limit + if new.inFlight agent limit then 1 else 0 := by
  unfold Crew.inFlight
  rw [turned]
  exact countSet _ _ turn

theorem inFlightNoMore {i : Nat} {old new : Worker} (turn : c.workers[i]? = some old)
    (turned : d.workers = c.workers.set i new)
    (before : new.inFlight agent limit = true → old.inFlight agent limit = true) :
    d.inFlight agent limit ≤ c.inFlight agent limit := by
  have flights : d.inFlight agent limit + _ = c.inFlight agent limit + _ := inFlightTurned turn turned
  cases flies : new.inFlight agent limit with
  | true =>
    rw [flies, before flies] at flights
    omega
  | false =>
    rw [flies] at flights
    simp only [Bool.false_eq_true, if_false] at flights
    omega

theorem runningNoMore {now : Instant} {call : Call} (h : Orderly c) (quiet : TaskWrite.Quiet agent call)
    (wrote : d.backend = (c.backend.perform now call).2) : d.running agent ≤ c.running agent := by
  unfold Crew.running
  rw [wrote, Store.runningCount, Store.runningCount]
  exact (c.backend.performTasks now call).noMore h.recorded quiet

section
variable {i : Nat} {told : List Told} {now : Instant}

theorem readCounted {call : Call}
    {next : call.Reply → Procedure (Except ReconcileError ReconcileOutcome)}
    (h : Orderly c) (turn : c.workers[i]? = some (.busy told (.call call next)))
    (may : May told call) (leaves : call.LeavesStatus)
    (wrote : d.backend = (c.backend.perform now call).2)
    (turned : d.workers = c.workers.set i (.busy (told ++ [⟨call, (c.backend.perform now call).1⟩])
      (next (c.backend.perform now call).1))) :
    d.running agent + d.inFlight agent limit ≤ c.running agent + c.inFlight agent limit ∨
      d.running agent < limit.toNat := by
  have running : d.running agent ≤ c.running agent := runningNoMore h (.inl leaves) wrote
  by_cases flies : Worker.inFlight agent limit (.busy (told ++ [⟨call, (c.backend.perform now call).1⟩])
      (next (c.backend.perform now call).1)) = true
  · rcases Worker.comesInFlight may flies with already | free
    · exact .inl (Nat.add_le_add running (inFlightNoMore turn turned fun _ => already))
    · exact .inr (Nat.lt_of_le_of_lt running free)
  · exact .inl (Nat.add_le_add running (inFlightNoMore turn turned fun new => absurd new flies))

theorem writeCounted {o : Task}
    {next : (Call.updateStatus .task o).Reply → Procedure (Except ReconcileError ReconcileOutcome)}
    (h : Orderly c) (informed : Informed agent limit c)
    (turn : c.workers[i]? = some (.busy told (.call (.updateStatus .task o) next)))
    (admitted : o.phase = .running → ∃ a, o.status.agent = some a.key ∧ Admitted told a)
    (wrote : d.backend = (c.backend.perform now (.updateStatus .task o)).2)
    (turned : d.workers = c.workers.set i (.busy
      (told ++ [⟨.updateStatus .task o, (c.backend.perform now (.updateStatus .task o)).1⟩])
      (next (c.backend.perform now (.updateStatus .task o)).1))) :
    d.running agent + d.inFlight agent limit ≤ c.running agent + c.inFlight agent limit := by
  have landed : Worker.inFlight agent limit (.busy
      (told ++ [⟨.updateStatus .task o, (c.backend.perform now (.updateStatus .task o)).1⟩])
      (next (c.backend.perform now (.updateStatus .task o)).1)) = false := Worker.writtenLands rfl
  have elsewhere (quiet : TaskWrite.Quiet agent (.updateStatus .task o)) :
      d.running agent + d.inFlight agent limit ≤ c.running agent + c.inFlight agent limit := by
    refine Nat.add_le_add (runningNoMore h quiet wrote) (inFlightNoMore turn turned fun flies => ?_)
    rw [landed] at flies
    cases flies
  by_cases running : o.phase = .running
  · obtain ⟨a, known, admission⟩ := admitted running
    by_cases own : a.key = agent
    · have under := informed _ (List.mem_of_getElem? turn) a admission.read own
      have room := admission.room limit under
      rw [own] at room
      have flying : Worker.inFlight agent limit (.busy told (.call (.updateStatus .task o) next)) = true :=
        Worker.inFlightIff.mpr ⟨admission.unwritten, ⟨a, admission.read, own⟩, room⟩
      -- the one task that starts was in flight before
      have more := (c.backend.performTasks now (.updateStatus .task o)).atMostOneMore agent
      have flights : d.inFlight agent limit + _ = c.inFlight agent limit + _ := inFlightTurned turn turned
      rw [landed, flying] at flights
      simp only [Bool.false_eq_true, if_true, if_false] at flights
      unfold Crew.running
      rw [wrote, Store.runningCount, Store.runningCount]
      omega
    · exact elsewhere (.inr ⟨o, rfl, fun _ => ⟨a.key, known, own⟩⟩)
  · exact elsewhere (.inr ⟨o, rfl, fun starts => absurd starts running⟩)

end

theorem Step.counted (step : Step c d) (h : Orderly c) (informed : Informed agent limit c) :
    d.running agent + d.inFlight agent limit ≤ c.running agent + c.inFlight agent limit ∨
      d.running agent < limit.toNat := by
  cases step with
  | taken r now key free =>
    refine .inl (Nat.add_le_add_left (inFlightNoMore free rfl fun flying => ?_) _)
    obtain ⟨-, ⟨a, read, -⟩, -⟩ := Worker.inFlightIff.mp flying
    cases read
  | asked now turn =>
    obtain ⟨may, -⟩ := h.obeys _ (List.mem_of_getElem? turn)
    rcases mayWrite may with leaves | ⟨o, rfl, admitted⟩
    · exact readCounted h turn may leaves rfl rfl
    · exact .inl (writeCounted h informed turn admitted rfl rfl)
  | ended turn =>
    refine .inl (Nat.add_le_add_left (inFlightNoMore turn rfl fun flies => ?_) _)
    cases flies
  | written now call leaves => exact .inl (Nat.add_le_add_right (runningNoMore h (.inl leaves) rfl) _)
  | worked => exact .inl (Nat.le_refl _)

end Crew
end Turnstile
