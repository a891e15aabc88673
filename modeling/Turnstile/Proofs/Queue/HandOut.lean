import Turnstile.Object.Key
import Turnstile.Proofs.Queue
import Turnstile.Proofs.Since
/-! Hand-outs of the work queue. Keys are added, delayed, handed out and released
in any order, and timers add theirs at any time. What happened is kept in a record,
and the sets of the queue hold what the record says. -/
namespace Turnstile

inductive QueueEvent (K : Type) where
  | added (k : K)
  | delayed (k : K)
  | fired (k : K)
  | handed (k : K)
  | released (k : K)
  deriving DecidableEq, Repr

structure Dispatch (K : Type) where
  queue : WorkQueue K
  ripe : List K
  held : List (Nat × K)
  log : List (QueueEvent K)
  deriving DecidableEq, Repr

namespace Dispatch

section
variable {K : Type} [DecidableEq K]

/-- What may happen next to a queue that runs. Between the end of a timer and its
add others may come; a worker releases a key once for each time it got it. -/
inductive Step : Dispatch K → Dispatch K → Prop where
  | added (s : Dispatch K) (k : K) :
      Step s { s with queue := s.queue.add k, log := s.log ++ [.added k] }
  | delayed (s : Dispatch K) (now : Duration) (k : K) (delay : Duration) :
      Step s { s with
        queue := s.queue.addAfter now k delay
        log := s.log ++ [if delay = .zero then .added k else .delayed k] }
  | ripened (s : Dispatch K) {d : Delayed K} (inside : d ∈ s.queue.delayed) :
      Step s { s with
        queue := { s.queue with delayed := s.queue.delayed.filter fun e => e.key != d.key }
        ripe := d.key :: s.ripe }
  | fired (s : Dispatch K) {k : K} (inside : k ∈ s.ripe) :
      Step s { s with queue := s.queue.add k, ripe := s.ripe.erase k, log := s.log ++ [.fired k] }
  | expired (s : Dispatch K) (now : Duration) :
      Step s { s with
        queue := s.queue.expire now
        log := s.log ++ (s.queue.due now).map .fired }
  | handed (s : Dispatch K) (worker : Nat) {k : K} {queue : WorkQueue K}
      (taken : s.queue.next? = some (k, queue)) :
      Step s { s with queue, held := (worker, k) :: s.held, log := s.log ++ [.handed k] }
  | released (s : Dispatch K) {worker : Nat} {k : K} (holds : (worker, k) ∈ s.held) :
      Step s { s with
        queue := s.queue.release k
        held := s.held.erase (worker, k)
        log := s.log ++ [.released k] }

def empty : Dispatch K := ⟨.empty, [], [], []⟩

inductive Reachable : Dispatch K → Prop where
  | start : Reachable empty
  | step {s d : Dispatch K} (past : Reachable s) (next : Step s d) : Reachable d

end

section
variable {K : Type}

def Adds (k : K) (e : QueueEvent K) : Prop := e = .added k ∨ e = .fired k

def AddedSince (k : K) : List (QueueEvent K) → Prop := Since (Adds k) (· = .handed k)

def Asked (k : K) (log : List (QueueEvent K)) : Prop := .added k ∈ log ∨ .delayed k ∈ log

variable {k j : K} {e : QueueEvent K} {log earlier later : List (QueueEvent K)}

theorem Asked.more (asked : Asked k earlier) : Asked k (earlier ++ later) :=
  asked.imp (List.mem_append_left _) (List.mem_append_left _)

structure Orderly (s : Dispatch K) : Prop where
  steady : s.queue.Steady
  line : s.queue.ready.Nodup
  waits : ∀ k ∈ s.queue.ready, k ∈ s.queue.dirty ∧ k ∉ s.queue.processing
  dirty : ∀ k, k ∈ s.queue.dirty ↔ AddedSince k s.log
  alone : (s.held.map Prod.snd).Nodup
  processing : ∀ k, k ∈ s.queue.processing ↔ k ∈ s.held.map Prod.snd

structure Founded (s : Dispatch K) : Prop where
  delayed : ∀ d ∈ s.queue.delayed, Asked d.key s.log
  ripe : ∀ k ∈ s.ripe, Asked k s.log
  fired : ∀ k, .fired k ∈ s.log → Asked k s.log
  handed : ∀ earlier k later, s.log = earlier ++ .handed k :: later → Asked k earlier

theorem Orderly.timers {s : Dispatch K} (h : Orderly s) (delayed : List (Delayed K)) (ripe : List K) :
    Orderly { s with queue := { s.queue with delayed := delayed }, ripe := ripe } :=
  ⟨⟨h.steady.running, h.steady.placed⟩, h.line, h.waits, h.dirty, h.alone, h.processing⟩

theorem Orderly.noting {s : Dispatch K} (h : Orderly s) (silent : ∀ j, ¬ Adds j e ∧ e ≠ .handed j) :
    Orderly { s with log := s.log ++ [e] } := by
  refine ⟨h.steady, h.line, h.waits, fun j => (h.dirty j).trans ?_, h.alone, h.processing⟩
  obtain ⟨adds, handed⟩ := silent j
  refine .trans ?_ sinceMore.symm
  exact ⟨fun since => .inr ⟨since, handed⟩, fun either => (either.resolve_left adds).1⟩

theorem Founded.logging {s : Dispatch K} (h : Founded s) (queue : WorkQueue K) (ripe : List K)
    (held : List (Nat × K))
    (delayed : ∀ d ∈ queue.delayed, d ∈ s.queue.delayed ∨ e = .delayed d.key)
    (ripened : ∀ k ∈ ripe, k ∈ s.ripe)
    (caused : ∀ k, e = .fired k ∨ e = .handed k → Asked k s.log) :
    Founded ⟨queue, ripe, held, s.log ++ [e]⟩ := by
  refine ⟨fun d inside => ?_, fun k inside => (h.ripe k (ripened k inside)).more, fun k inside => ?_,
    fun earlier k later same => ?_⟩
  · rcases delayed d inside with before | now
    · exact (h.delayed d before).more
    · exact .inr (List.mem_append_right _ (List.mem_singleton.mpr now.symm))
  · rcases List.mem_append.mp inside with before | last
    · exact (h.fired k before).more
    · exact (caused k (.inl (List.mem_singleton.mp last).symm)).more
  · rcases lastSplit same with ⟨-, now, rfl⟩ | ⟨between, -, front⟩
    · exact caused k (.inr now.symm)
    · exact h.handed earlier k between front

end

end Dispatch

namespace WorkQueue
variable {K : Type} [DecidableEq K] {q : WorkQueue K} {k j : K}

theorem addCases (running : q.isShutdown = false) :
    (k ∈ q.dirty ∧ q.add k = q) ∨
    (k ∉ q.dirty ∧ k ∈ q.processing ∧ q.add k = { q with dirty := k :: q.dirty }) ∨
    (k ∉ q.dirty ∧ k ∉ q.processing ∧
      q.add k = { q with dirty := k :: q.dirty, ready := q.ready ++ [k] }) := by
  by_cases dirty : k ∈ q.dirty
  · exact .inl ⟨dirty, by simp [add, dirty]⟩
  · by_cases held : k ∈ q.processing
    · exact .inr (.inl ⟨dirty, held, by simp [add, running, dirty, held]⟩)
    · exact .inr (.inr ⟨dirty, held, by simp [add, running, dirty, held]⟩)

theorem addDirtyIff (running : q.isShutdown = false) : j ∈ (q.add k).dirty ↔ j = k ∨ j ∈ q.dirty := by
  rcases addCases (k := k) running with ⟨dirty, same⟩ | ⟨-, -, same⟩ | ⟨-, -, same⟩
  · rw [same]
    exact ⟨.inr, fun either => either.elim (fun own => own ▸ dirty) id⟩
  · rw [same]
    exact List.mem_cons
  · rw [same]
    exact List.mem_cons

theorem addDelayed {d : Delayed K} : d ∈ (q.add k).delayed ↔ d ∈ q.delayed := by
  unfold add
  split
  · rfl
  · split <;> rfl

theorem addLine (running : q.isShutdown = false) (line : q.ready.Nodup)
    (waits : ∀ j ∈ q.ready, j ∈ q.dirty ∧ j ∉ q.processing) :
    (q.add k).ready.Nodup ∧ ∀ j ∈ (q.add k).ready, j ∈ (q.add k).dirty ∧ j ∉ (q.add k).processing := by
  rcases addCases (k := k) running with ⟨-, same⟩ | ⟨-, -, same⟩ | ⟨clean, free, same⟩
  · rw [same]
    exact ⟨line, waits⟩
  · rw [same]
    exact ⟨line, fun j inside => ⟨List.mem_cons_of_mem _ (waits j inside).1, (waits j inside).2⟩⟩
  · rw [same]
    refine ⟨List.nodup_append.mpr ⟨line, by simp, ?_⟩, fun j inside => ?_⟩
    · intro j inside other single equal
      rw [List.mem_singleton.mp single] at equal
      exact clean (equal ▸ (waits j inside).1)
    · rcases List.mem_append.mp inside with before | last
      · exact ⟨List.mem_cons_of_mem _ (waits j before).1, (waits j before).2⟩
      · rw [List.mem_singleton.mp last]
        exact ⟨List.mem_cons_self, free⟩

theorem addAfterCases (running : q.isShutdown = false) (now : Duration) (k : K) (delay : Duration) :
    (delay = .zero ∧ q.addAfter now k delay = q.add k) ∨
    (delay ≠ .zero ∧ ∃ delayed, q.addAfter now k delay = { q with delayed := delayed } ∧
      ∀ d ∈ delayed, d ∈ q.delayed ∨ d.key = k) := by
  unfold addAfter
  split
  · rename_i zero
    exact .inl ⟨zero, rfl⟩
  · rename_i waits
    refine .inr ⟨waits, ?_⟩
    split
    · rename_i shut
      rw [running] at shut
      cases shut
    dsimp only
    split
    · exact ⟨q.delayed, rfl, fun d inside => .inl inside⟩
    · refine ⟨_, rfl, fun d inside => ?_⟩
      rcases List.mem_append.mp inside with before | last
      · exact .inl (List.mem_filter.mp before).1
      · rw [List.mem_singleton.mp last]
        exact .inr rfl

theorem releaseCases (running : q.isShutdown = false) :
    (k ∈ q.dirty ∧ q.release k = { q with
      processing := q.processing.filter (· != k), ready := q.ready ++ [k] }) ∨
    (k ∉ q.dirty ∧ q.release k = { q with processing := q.processing.filter (· != k) }) := by
  by_cases dirty : k ∈ q.dirty
  · exact .inl ⟨dirty, by simp [release, running, dirty]⟩
  · exact .inr ⟨dirty, by simp [release, dirty]⟩

end WorkQueue

namespace Dispatch
open WorkQueue
variable {K : Type} [DecidableEq K] {s d : Dispatch K} {k : K} {e : QueueEvent K}

theorem Orderly.adding (h : Orderly s) (adds : Adds k e) :
    Orderly { s with queue := s.queue.add k, log := s.log ++ [e] } := by
  obtain ⟨line, waits⟩ := addLine (k := k) h.steady.running h.line h.waits
  refine ⟨addSteady h.steady, line, waits, fun j => ?_, h.alone, fun j => ?_⟩
  · have since : AddedSince j (s.log ++ [e]) ↔ j = k ∨ AddedSince j s.log := by
      unfold AddedSince
      rw [sinceMore]
      rcases adds with rfl | rfl <;> simp [Adds, eq_comm]
    exact (addDirtyIff h.steady.running).trans ((or_congr_right (h.dirty j)).trans since.symm)
  · rw [addProcessing]
    exact h.processing j

theorem Orderly.firing {ks : List K} (h : Orderly s) :
    Orderly { s with queue := s.queue.addAll ks, log := s.log ++ ks.map .fired } := by
  induction ks generalizing s with
  | nil => simpa [addAll] using h
  | cons k rest ih =>
    have first := h.adding (k := k) (e := .fired k) (.inr rfl)
    simpa [addAll] using ih first

theorem Orderly.handing {worker : Nat} {queue : WorkQueue K} (h : Orderly s)
    (taken : s.queue.next? = some (k, queue)) :
    Orderly { s with queue, held := (worker, k) :: s.held, log := s.log ++ [.handed k] } := by
  have steady := nextSteady taken h.steady
  obtain ⟨rest, line, rfl⟩ := nextTakes taken
  have nodup := h.line
  have waits := h.waits
  rw [line] at nodup waits
  obtain ⟨fresh, nodup⟩ := List.nodup_cons.mp nodup
  have free : k ∉ s.queue.processing := (waits k List.mem_cons_self).2
  refine ⟨steady, nodup, fun j inside => ?_, fun j => ?_, ?_, fun j => ?_⟩
  · obtain ⟨dirty, apart⟩ := waits j (List.mem_cons_of_mem _ inside)
    have other : j ≠ k := fun same => fresh (same ▸ inside)
    refine ⟨List.mem_filter.mpr ⟨dirty, by simpa using other⟩, fun held => ?_⟩
    exact (holdMem.mp held).elim other apart
  · have other : (j != k) = true ↔ QueueEvent.handed k ≠ .handed j := by simp [ne_comm]
    have silent : ¬ Adds j (.handed k) := by simp [Adds]
    rw [List.mem_filter, h.dirty j, other]
    refine .trans ?_ sinceMore.symm
    exact ⟨.inr, fun either => either.resolve_left silent⟩
  · have unheld : k ∉ s.held.map Prod.snd := fun held => free ((h.processing k).mpr held)
    exact List.nodup_cons.mpr ⟨unheld, h.alone⟩
  · rw [holdMem, h.processing j, List.map_cons, List.mem_cons]

theorem Orderly.releasing {worker : Nat} (h : Orderly s) (holds : (worker, k) ∈ s.held) :
    Orderly { s with
      queue := s.queue.release k
      held := s.held.erase (worker, k)
      log := s.log ++ [.released k] } := by
  have held : k ∈ s.held.map Prod.snd := List.mem_map_of_mem holds
  have busy : k ∈ s.queue.processing := (h.processing k).mpr held
  have left : ∀ j, j ∈ (s.held.erase (worker, k)).map Prod.snd ↔ j ∈ s.held.map Prod.snd ∧ j ≠ k := by
    intro j
    have perm := (List.perm_cons_erase holds).map Prod.snd
    have once := perm.nodup_iff.mp h.alone
    rw [perm.mem_iff, List.map_cons, List.mem_cons]
    obtain ⟨fresh, -⟩ := List.nodup_cons.mp once
    constructor
    · exact fun inside => ⟨.inr inside, fun same => fresh (same ▸ inside)⟩
    · rintro ⟨same | inside, other⟩
      · exact absurd same other
      · exact inside
  have order : Orderly { s with queue := s.queue.release k, held := s.held.erase (worker, k) } := by
    refine ⟨releaseSteady h.steady, ?_, ?_, ?_, h.alone.sublist (List.erase_sublist.map _), fun j => ?_⟩
    · rcases releaseCases (k := k) h.steady.running with ⟨-, same⟩ | ⟨-, same⟩
      · rw [same]
        refine List.nodup_append.mpr ⟨h.line, by simp, fun j inside other single equal => ?_⟩
        rw [List.mem_singleton.mp single] at equal
        exact (h.waits j inside).2 (equal ▸ busy)
      · rw [same]
        exact h.line
    · intro j inside
      rcases releaseCases (k := k) h.steady.running with ⟨dirty, same⟩ | ⟨-, same⟩
      · rw [same] at inside ⊢
        rcases List.mem_append.mp inside with before | last
        · exact ⟨(h.waits j before).1, fun still => (h.waits j before).2 (List.mem_filter.mp still).1⟩
        · rw [List.mem_singleton.mp last]
          exact ⟨dirty, by simp⟩
      · rw [same] at inside ⊢
        exact ⟨(h.waits j inside).1, fun still => (h.waits j inside).2 (List.mem_filter.mp still).1⟩
    · intro j
      rcases releaseCases (k := k) h.steady.running with ⟨-, same⟩ | ⟨-, same⟩ <;>
        · rw [same]
          exact h.dirty j
    · exact releaseProcessing.trans ((and_congr_left' (h.processing j)).trans (left j).symm)
  exact order.noting fun j => by simp [Adds]

theorem Step.orderly (step : Step s d) (h : Orderly s) : Orderly d := by
  cases step with
  | added k => exact h.adding (.inl rfl)
  | delayed now k delay =>
    rcases addAfterCases h.steady.running now k delay with
      ⟨zero, same⟩ | ⟨waits, delayed, same, -⟩
    · rw [same, if_pos zero]
      exact h.adding (.inl rfl)
    · rw [same, if_neg waits]
      exact (h.timers delayed s.ripe).noting fun j => by simp [Adds]
  | ripened inside => exact h.timers _ _
  | @fired k inside =>
    exact (h.timers s.queue.delayed (s.ripe.erase k)).adding (k := k) (e := .fired k) (.inr rfl)
  | expired now => exact (h.timers _ s.ripe).firing
  | handed worker taken => exact h.handing taken
  | released holds => exact h.releasing holds

theorem Founded.firing {ks : List K} (h : Founded s) (asked : ∀ k ∈ ks, Asked k s.log) :
    Founded { s with queue := s.queue.addAll ks, log := s.log ++ ks.map .fired } := by
  induction ks generalizing s with
  | nil => simpa [addAll] using h
  | cons k rest ih =>
    have first : Founded { s with queue := s.queue.add k, log := s.log ++ [.fired k] } := by
      refine h.logging _ _ _ (fun d inside => .inl (addDelayed.mp inside)) (fun _ => id) ?_
      rintro j (same | impossible)
      · cases same
        exact asked k List.mem_cons_self
      · cases impossible
    simpa [addAll] using ih first fun j inside => (asked j (List.mem_cons_of_mem _ inside)).more

theorem Step.founded (step : Step s d) (h : Founded s) (order : Orderly s) : Founded d := by
  cases step with
  | added k => exact h.logging _ _ _ (fun d inside => .inl (addDelayed.mp inside)) (fun _ => id) (by simp)
  | delayed now k delay =>
    rcases addAfterCases order.steady.running now k delay with
      ⟨zero, same⟩ | ⟨waits, delayed, same, known⟩
    · rw [same, if_pos zero]
      exact h.logging _ _ _ (fun d inside => .inl (addDelayed.mp inside)) (fun _ => id) (by simp)
    · rw [same, if_neg waits]
      refine h.logging _ _ _ (fun d inside => ?_) (fun _ => id) (by simp)
      exact (known d inside).imp_right fun own => congrArg _ own.symm
  | ripened inside =>
    refine ⟨fun d later => h.delayed d (List.mem_filter.mp later).1, fun k later => ?_, h.fired, h.handed⟩
    rcases List.mem_cons.mp later with rfl | before
    · exact h.delayed _ inside
    · exact h.ripe k before
  | fired inside =>
    refine h.logging _ _ _ (fun d later => .inl (addDelayed.mp later)) (fun k => List.mem_of_mem_erase) ?_
    rintro j (same | impossible)
    · cases same
      exact h.ripe _ inside
    · cases impossible
  | expired now =>
    have rest : Founded { s with queue := { s.queue with
        delayed := s.queue.delayed.filter fun d => !isDue now d } } :=
      ⟨fun d later => h.delayed d (List.mem_filter.mp later).1, h.ripe, h.fired, h.handed⟩
    refine rest.firing fun k inside => ?_
    obtain ⟨d, ripe, rfl⟩ := List.mem_map.mp inside
    exact h.delayed d (List.mem_filter.mp (List.mem_mergeSort.mp ripe)).1
  | @handed _ k _ taken =>
    obtain ⟨rest, line, rfl⟩ := nextTakes taken
    refine h.logging _ _ _ (fun _ => .inl) (fun _ => id) ?_
    rintro j (impossible | same)
    · cases impossible
    · cases same
      have waits : k ∈ s.queue.ready := by rw [line]; exact List.mem_cons_self
      obtain ⟨e, inside, rfl | rfl⟩ := ((order.dirty k).mp (order.waits k waits).1).happened
      · exact .inl inside
      · exact h.fired k inside
  | released holds =>
    refine h.logging _ _ _ (fun d inside => .inl ?_) (fun _ => id) (by simp)
    rcases releaseCases (q := s.queue) order.steady.running with ⟨-, same⟩ | ⟨-, same⟩ <;>
      · rw [same] at inside
        exact inside

theorem Reachable.sound (past : Reachable s) : Orderly s ∧ Founded s := by
  induction past with
  | start =>
    refine ⟨⟨⟨rfl, nofun⟩, .nil, nofun, fun k => ?_, .nil, fun k => ?_⟩, nofun, nofun, nofun, ?_⟩
    · exact ⟨nofun, fun since => (notSinceNothing since).elim⟩
    · exact ⟨nofun, nofun⟩
    · intro earlier k later same
      cases earlier <;> cases same
  | step _ next ih => exact ⟨next.orderly ih.1, next.founded ih.2 ih.1⟩

/-- However adds, timers, hand-outs and releases come in between each other, a key is in
one pair of hands at most, waits once at most, and comes back if it was added meanwhile. -/
theorem handedOutSafely (past : Reachable s) :
    (s.held.map Prod.snd).Nodup ∧
    (∀ k, k ∈ s.queue.processing ↔ ∃ worker, (worker, k) ∈ s.held) ∧
    s.queue.ready.Nodup ∧
    (∀ k ∈ s.queue.ready, k ∉ s.queue.processing) ∧
    (∀ k, k ∈ s.queue.dirty ↔
      k ∈ s.queue.ready ∨ (k ∈ s.queue.processing ∧ AddedSince k s.log)) ∧
    (∀ k, AddedSince k s.log → (∀ worker, (worker, k) ∉ s.held) → k ∈ s.queue.ready) ∧
    (∀ earlier k later, s.log = earlier ++ .handed k :: later → Asked k earlier) := by
  obtain ⟨order, founded⟩ := past.sound
  have holders : ∀ k, k ∈ s.queue.processing ↔ ∃ worker, (worker, k) ∈ s.held := fun k => by
    rw [order.processing k]
    simp
  refine ⟨order.alone, holders, order.line, fun k inside => (order.waits k inside).2, fun k => ?_,
    fun k since free => ?_, founded.handed⟩
  · constructor
    · intro dirty
      exact (order.steady.placed k dirty).imp_right fun held => ⟨held, (order.dirty k).mp dirty⟩
    · rintro (waits | ⟨-, since⟩)
      · exact (order.waits k waits).1
      · exact (order.dirty k).mpr since
  · refine (order.steady.placed k ((order.dirty k).mpr since)).resolve_right fun held => ?_
    obtain ⟨worker, holds⟩ := (holders k).mp held
    exact free worker holds

def readded (k : Key) : Dispatch Key :=
  ⟨⟨[k], [k], [], [], false⟩, [], [], [.added k, .handed k, .added k, .released k]⟩

theorem readdedReachable (k : Key) : Reachable (readded k) := by
  have added : Reachable ⟨⟨[k], [k], [], [], false⟩, [], [], [.added k]⟩ := by
    simpa [empty, WorkQueue.empty, add] using Reachable.start.step (.added empty k)
  have handed : Reachable ⟨⟨[], [], [k], [], false⟩, [], [(0, k)], [.added k, .handed k]⟩ := by
    simpa [hold] using added.step (.handed _ 0 rfl)
  have again : Reachable ⟨⟨[], [k], [k], [], false⟩, [], [(0, k)], [.added k, .handed k, .added k]⟩ := by
    simpa [add] using handed.step (.added _ k)
  simpa [release, readded] using again.step (.released _ (List.mem_singleton.mpr rfl))

theorem readdedWaits : AddedSince ⟨"ns", "task"⟩ (readded ⟨"ns", "task"⟩).log ∧
    (∀ worker, (worker, Key.mk "ns" "task") ∉ (readded ⟨"ns", "task"⟩).held) ∧
    Key.mk "ns" "task" ∈ (readded ⟨"ns", "task"⟩).queue.ready := by
  have since : AddedSince (Key.mk "ns" "task") (readded ⟨"ns", "task"⟩).log :=
    ⟨[.added _, .handed _], .added _, [.released _], rfl, .inl rfl, by simp⟩
  exact ⟨since, nofun, (handedOutSafely (readdedReachable _)).2.2.2.2.2.1 _ since nofun⟩

end Dispatch
end Turnstile
