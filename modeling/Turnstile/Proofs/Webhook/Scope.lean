import Turnstile.Webhook.Intake
import Turnstile.Proofs.Attempt
/-! The tasks of a scope: those of a trigger, or of one of its rules. An active one occupies
the scope. Stop requests mark the tasks that occupy it and change nothing else, also where
their calls fail, so they make no room at once, and tasks of other scopes stay as they are. -/
namespace Turnstile

theorem Metadata.matchesIff {m : Metadata} {selector : TextMap} :
    m.matchesLabels selector = true ↔
      ∀ label value, selector.get? label = some value → m.labels.get? label = some value := by
  unfold matchesLabels
  rw [List.all_eq_true]
  constructor
  · intro all label value asked
    exact beq_iff_eq.mp (all (label, value) (SortedMap.memEntries.mpr asked))
  · intro asked e inside
    exact beq_iff_eq.mpr (asked e.1 e.2 (SortedMap.memEntries.mp inside))

theorem Webhook.scopeIff {ns trigger : String} {rule : Option String} {m : Metadata} :
    (scope ns trigger rule).matchesMetadata m = true ↔
      m.ns = ns ∧ m.labels.get? triggerLabel = some trigger ∧
        ∀ name, rule = some name → m.labels.get? ruleLabel = some name := by
  have apart : ruleLabel ≠ triggerLabel := by decide
  have only : ∀ {label value}, (SortedMap.empty.insert triggerLabel trigger).get? label = some value →
      label = triggerLabel ∧ value = trigger := by
    intro label value found
    by_cases same : label = triggerLabel
    · rw [same, SortedMap.getInsertSame] at found
      exact ⟨same, (Option.some.inj found).symm⟩
    · rw [SortedMap.getInsertOther _ _ same] at found
      cases found
  have home : (scope ns trigger rule).matchesMetadata m = true ↔
      m.ns = ns ∧ m.matchesLabels (scope ns trigger rule).labels = true := by
    simp only [Selector.matchesMetadata, scope, Option.all_some, Bool.and_eq_true, beq_iff_eq]
    exact and_congr_left fun _ => eq_comm
  rw [home, Metadata.matchesIff]
  refine and_congr_right fun _ => ?_
  cases rule with
  | none =>
    constructor
    · exact fun all => ⟨all _ _ (SortedMap.getInsertSame _ _ _),
        fun _ none => absurd none.symm (Option.some_ne_none _)⟩
    · intro asked label value found
      obtain ⟨rfl, rfl⟩ := only found
      exact asked.1
  | some name =>
    constructor
    · intro all
      refine ⟨all _ _ ?_, fun other same => ?_⟩
      · exact (SortedMap.getInsertOther _ _ apart.symm).trans (SortedMap.getInsertSame _ _ _)
      · cases same
        exact all _ _ (SortedMap.getInsertSame _ _ _)
    · intro asked label value found
      by_cases same : label = ruleLabel
      · rw [same, show (scope ns trigger (some name)).labels.get? ruleLabel = some name from
          SortedMap.getInsertSame _ _ _] at found
        cases found
        rw [same]
        exact asked.2 name rfl
      · have under := (SortedMap.getInsertOther _ name same).symm.trans found
        obtain ⟨rfl, rfl⟩ := only under
        exact asked.1

def Task.occupies (t : Task) (s : Selector) : Bool := s.matchesMetadata t.metadata && t.isActive

/-- A task without what a stop request may change. -/
def Task.unmarked (t : Task) : Task :=
  { t with metadata := { t.metadata with
      annotations := .empty
      resourceVersion := 0
      generation := 0 } }

namespace Task
variable {t u : Task} {s : Selector}

theorem occupiesIff : t.occupies s = true ↔ s.matchesMetadata t.metadata = true ∧ t.isActive = true :=
  Bool.and_eq_true_iff

theorem matchesUnmarked (same : u.unmarked = t.unmarked) (s : Selector) :
    s.matchesMetadata u.metadata = s.matchesMetadata t.metadata := by
  change s.matchesMetadata u.unmarked.metadata = s.matchesMetadata t.unmarked.metadata
  rw [same]

theorem occupiesUnmarked (same : u.unmarked = t.unmarked) (s : Selector) : u.occupies s = t.occupies s := by
  change u.unmarked.occupies s = t.unmarked.occupies s
  rw [same]

end Task

namespace Store
variable {s : Store} {selector : Selector} {t : Task}

def occupants (s : Store) (selector : Selector) : List Task :=
  (s.list .task selector).filter Task.isActive

theorem stored (s : Store) : t ∈ s.tasks.objects.values ↔ s.get? .task t.key = some t := by
  rw [SortedMap.memValues]
  constructor
  · rintro ⟨key, found⟩
    have own : t.key = key := s.tasks.keyed found
    rw [own]
    exact found
  · exact fun found => ⟨t.key, found⟩

theorem memOccupants : t ∈ s.occupants selector ↔
    s.get? .task t.key = some t ∧ t.occupies selector = true := by
  rw [occupants, List.mem_filter, Task.occupiesIff, ← and_assoc]
  refine and_congr_left fun _ => ?_
  exact List.mem_filter.trans (and_congr_left fun _ => s.stored)

theorem vacantIff : (s.occupants selector).isEmpty = true ↔
    ∀ key t, s.get? .task key = some t → t.occupies selector = false := by
  rw [List.isEmpty_iff, List.eq_nil_iff_forall_not_mem]
  constructor
  · intro none key t found
    have own : t.key = key := s.tasks.keyed found
    subst own
    exact Bool.eq_false_iff.mpr fun busy => none t (memOccupants.mpr ⟨found, busy⟩)
  · intro none t inside
    obtain ⟨found, busy⟩ := memOccupants.mp inside
    rw [none t.key t found] at busy
    cases busy

theorem sameFound {after : Store} (same : after.tasks = s.tasks) (key : Key) :
    after.get? .task key = s.get? .task key := by
  change after.tasks.objects.get? key = s.tasks.objects.get? key
  rw [same]

theorem putSame {after : Store} (put : after.tasks = s.tasks.put t) :
    after.get? .task t.key = some t := by
  change after.tasks.objects.get? t.key = some t
  rw [put]
  exact Collection.putSame _ _

theorem putOther {after : Store} {key : Key} (put : after.tasks = s.tasks.put t) (other : key ≠ t.key) :
    after.get? .task key = s.get? .task key := by
  change after.tasks.objects.get? key = s.tasks.objects.get? key
  rw [put]
  exact Collection.putOther _ other

end Store

def Backend.Marked (selector : Selector) (b after : Backend) : Prop :=
  ∀ key, after.store.get? .task key = b.store.get? .task key ∨
    ∃ t u, b.store.get? .task key = some t ∧ after.store.get? .task key = some u ∧
      t.occupies selector = true ∧ u.unmarked = t.unmarked

namespace Backend.Marked
variable {b after later : Backend} {selector other : Selector} {key : Key} {t : Task}

theorem same (tasks : after.store.tasks = b.store.tasks) : b.Marked selector after :=
  fun key => .inl (Store.sameFound tasks key)

theorem trans (first : b.Marked selector after) (second : after.Marked selector later) :
    b.Marked selector later := by
  intro key
  rcases second key with kept | ⟨u, v, found, marked, busy, rest⟩
  · rw [kept]
    exact first key
  · right
    rcases first key with kept | ⟨t, u', stored, found', before, rest'⟩
    · exact ⟨u, v, kept ▸ found, marked, busy, rest⟩
    · rw [found] at found'
      cases found'
      exact ⟨t, v, stored, marked, before, rest.trans rest'⟩

theorem origin (marked : b.Marked selector after) (found : after.store.get? .task key = some t) :
    ∃ old, b.store.get? .task key = some old ∧ t.unmarked = old.unmarked := by
  rcases marked key with kept | ⟨old, u, stored, found', -, rest⟩
  · exact ⟨t, kept ▸ found, rfl⟩
  · rw [found] at found'
    cases found'
    exact ⟨old, stored, rest⟩

theorem kept (marked : b.Marked selector after) (found : b.store.get? .task key = some t) :
    ∃ new, after.store.get? .task key = some new ∧ new.unmarked = t.unmarked := by
  rcases marked key with kept | ⟨old, u, stored, found', -, rest⟩
  · exact ⟨t, kept.trans found, rfl⟩
  · rw [found] at stored
    cases stored
    exact ⟨u, found', rest⟩

theorem absent (marked : b.Marked selector after) :
    after.store.get? .task key = none ↔ b.store.get? .task key = none := by
  rcases marked key with kept | ⟨old, u, stored, found, -⟩
  · rw [kept]
  · rw [stored, found]
    exact iff_of_false nofun nofun

theorem rest (marked : b.Marked selector after) (key : Key) :
    (after.store.get? .task key).map Task.unmarked = (b.store.get? .task key).map Task.unmarked := by
  rcases marked key with kept | ⟨t, u, stored, found, -, same⟩
  · rw [kept]
  · rw [stored, found]
    exact congrArg some same

theorem vacant (marked : b.Marked selector after) (other : Selector) :
    (after.store.occupants other).isEmpty = (b.store.occupants other).isEmpty := by
  rw [Bool.eq_iff_iff, Store.vacantIff, Store.vacantIff]
  constructor
  · intro none key t stored
    obtain ⟨u, found, rest⟩ := marked.kept stored
    rw [← Task.occupiesUnmarked rest]
    exact none key u found
  · intro none key u found
    obtain ⟨t, stored, rest⟩ := marked.origin found
    rw [Task.occupiesUnmarked rest]
    exact none key t stored

end Backend.Marked

theorem Backend.markMarks {b : Backend} {now : Instant} {selector : Selector} {key : Key} {t : Task}
    (stored : b.store.get? .task key = some t) (busy : t.occupies selector = true) :
    b.Marked selector (b.perform now (.update .task t.markStopped)).2 := by
  have own : t.key = key := b.store.tasks.keyed stored
  subst own
  have after : (b.perform now (.update .task t.markStopped)).2.store.tasks =
    (b.store.tasks.replace (b.store.version + 1) 1 Kind.task.keepStatus t.markStopped).2 := rfl
  rcases b.store.tasks.replaceCases (b.store.version + 1) 1 Kind.task.keepStatus t.markStopped
    with ⟨e, refused⟩ | ⟨current, found, -, written⟩
  · rw [refused] at after
    exact .same after
  · have same : current = t := Option.some.inj (found.symm.trans stored)
    subst same
    rw [written] at after
    obtain ⟨marked, put, rest⟩ : ∃ u : Task,
      (b.perform now (.update .task current.markStopped)).2.store.tasks = b.store.tasks.put u ∧
      u.unmarked = current.unmarked := ⟨_, after, rfl⟩
    have own : marked.key = current.key := (congrArg Task.key rest :)
    intro key
    by_cases mine : key = marked.key
    · subst mine
      exact .inr ⟨current, marked, own ▸ stored, Store.putSame put, busy, rest⟩
    · exact .inl (Store.putOther put mine)

def Backend.Aside (selector : Selector) (b after : Backend) : Prop :=
  b.Marked selector after ∧ after.store.triggers = b.store.triggers

namespace Backend.Aside
variable {selector : Selector} {b after later : Backend}

theorem same (selector : Selector) (b : Backend) : b.Aside selector b := ⟨.same rfl, rfl⟩

theorem trans (first : b.Aside selector after) (second : after.Aside selector later) :
    b.Aside selector later :=
  ⟨first.1.trans second.1, second.2.trans first.2⟩

end Backend.Aside

theorem Task.stopAttempt {key : Key} {attempts : Nat} {selector : Selector} {now : Instant} {b after : Backend}
    {reply : Except StoreError Bool}
    (attempt : Procedure.Attempt Call.OfTasks now (Task.requestStopWithin key attempts) b reply after)
    (carries : ∀ t, b.store.get? .task key = some t → selector.matchesMetadata t.metadata = true) :
    b.Aside selector after := by
  induction attempts generalizing b with
  | zero =>
    cases attempt
    exact .same selector _
  | succ attempts ih =>
    unfold Task.requestStopWithin at attempt
    obtain ⟨found, middle, read, rest⟩ := attempt.bind
    rcases read.ask with ⟨answered, still⟩ | ⟨-, still, failure, answered⟩
    · replace answered : found = .ok (b.store.get? .task key) := answered
      replace still : middle = b := still
      rw [answered, still] at rest
      cases stored : b.store.get? .task key with
      | none =>
        rw [stored] at rest
        cases rest
        exact .same selector _
      | some task =>
        rw [stored] at rest
        dsimp only at rest
        split at rest
        · cases rest
          exact .same selector _
        · rename_i active
          have busy : task.occupies selector = true :=
            Task.occupiesIff.mpr ⟨carries task stored, by simp at active; exact active.1⟩
          obtain ⟨written, last, wrote, rest⟩ := rest.bind
          have marked : b.Aside selector last := by
            rcases wrote.ask with ⟨-, left⟩ | ⟨-, left, -⟩
            · rw [left]
              exact ⟨Backend.markMarks stored busy, rfl⟩
            · rw [left]
              exact .same selector _
          cases written with
          | ok _ =>
            cases rest
            exact marked
          | error e =>
            dsimp only at rest
            split at rest
            · refine marked.trans (ih rest fun u there => ?_)
              obtain ⟨old, before, same⟩ := marked.1.origin there
              rw [Task.matchesUnmarked same]
              exact carries old before
            · cases rest
              exact marked
    · replace answered : found = .error _ := answered
      rw [answered, still] at rest
      cases rest
      exact .same selector _

theorem Task.stopMarks (key : Key) (attempts : Nat) {selector : Selector} {now : Instant} {b : Backend}
    (carries : ∀ t, b.store.get? .task key = some t → selector.matchesMetadata t.metadata = true) :
    b.Marked selector ((Task.requestStopWithin key attempts).run now b).2 :=
  (Task.stopAttempt (.ofRun _ _) carries).1

namespace Webhook
variable {b after : Backend} {now : Instant} {ns trigger : String} {rule : Option String}

theorem stopAllAttempt {selector : Selector} {tasks : List Task} {u : Unit}
    (attempt : Procedure.Attempt Call.OfTasks now (stopAll tasks) b u after)
    (carries : ∀ task ∈ tasks, ∀ t, b.store.get? .task task.key = some t →
      selector.matchesMetadata t.metadata = true) : b.Aside selector after := by
  induction tasks generalizing b with
  | nil =>
    cases attempt
    exact .same selector _
  | cons task rest ih =>
    unfold stopAll at attempt
    obtain ⟨reply, middle, first, later⟩ := attempt.bind
    have one := Task.stopAttempt first (carries task List.mem_cons_self)
    refine one.trans (ih later fun other inside t there => ?_)
    obtain ⟨old, before, same⟩ := one.1.origin there
    rw [Task.matchesUnmarked same]
    exact carries other (List.mem_cons_of_mem _ inside) old before

theorem stopAllMarks {selector : Selector} (tasks : List Task)
    (busy : ∀ task ∈ tasks, ∀ t, b.store.get? .task task.key = some t →
      selector.matchesMetadata t.metadata = true) :
    b.Marked selector ((stopAll tasks).run now b).2 :=
  (stopAllAttempt (.ofRun _ _) busy).1

def admits (policy : ConcurrencyPolicy) (s : Store) (selector : Selector) : Bool :=
  policy != .forbid || (s.occupants selector).isEmpty

theorem enforceRun (policy : ConcurrencyPolicy) (ns trigger : String) (rule : Option String)
    (now : Instant) (b : Backend) : ∃ after,
    (enforce policy ns trigger rule).run now b =
      (.ok (admits policy b.store (scope ns trigger rule)), after) ∧
    b.Marked (scope ns trigger rule) after := by
  cases policy with
  | allow => exact ⟨b, rfl, .same rfl⟩
  | forbid => exact ⟨b, rfl, .same rfl⟩
  | replace =>
    have listed : (enforce .replace ns trigger rule).run now b =
        (stopAll (b.store.occupants (scope ns trigger rule)) >>= fun _ => pure (.ok true)).run now b := rfl
    rw [listed, Procedure.run, Procedure.runBind]
    refine ⟨_, rfl, stopAllMarks _ fun task inside t found => ?_⟩
    obtain ⟨stored, busy⟩ := Store.memOccupants.mp inside
    rw [stored] at found
    cases found
    exact (Task.occupiesIff.mp busy).1

end Webhook

theorem Backend.createTask (now : Instant) (b : Backend) (o : Task) :
    (∃ e, (b.perform now (.create .task o)).1 = .error e ∧
      (b.perform now (.create .task o)).2.store.tasks = b.store.tasks ∧
      (o.metadata.name = "" ∨ o.metadata.ns = "" ∨ b.store.get? .task o.key ≠ none)) ∨
    (∃ version, (b.perform now (.create .task o)).1 = .ok (Collection.firstWrite (k := .task) version now o) ∧
      b.store.get? .task o.key = none ∧ (b.perform now (.create .task o)).2.store.tasks =
        b.store.tasks.put (Collection.firstWrite (k := .task) version now o)) := by
  have reply : (b.perform now (.create .task o)).1 =
    (b.store.tasks.create (b.store.version + 1) now o).1 := rfl
  have left : (b.perform now (.create .task o)).2.store.tasks =
    (b.store.tasks.create (b.store.version + 1) now o).2 := rfl
  rw [reply, left]
  dsimp only [Collection.create]
  split
  · rename_i unnamed
    refine .inl ⟨_, rfl, rfl, ?_⟩
    have empty : o.metadata.name.isEmpty = true ∨ o.metadata.ns.isEmpty = true := Bool.or_eq_true_iff.mp unnamed
    rcases empty with name | ns
    · exact .inl (String.isEmpty_iff.mp name)
    · exact .inr (.inl (String.isEmpty_iff.mp ns))
  · split
    · rename_i taken
      exact .inl ⟨_, rfl, rfl, .inr (.inr (Option.isSome_iff_ne_none.mp taken))⟩
    · rename_i vacant
      exact .inr ⟨_, rfl, Option.not_isSome_iff_eq_none.mp vacant, rfl⟩

end Turnstile
