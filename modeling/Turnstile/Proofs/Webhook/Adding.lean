import Turnstile.Proofs.Webhook.Books
import Turnstile.Proofs.Webhook.Rules
/-! The tasks that a request adds, though calls on tasks may fail. Each is new, and there in the
scope that it was made in; a task that was there before may be marked for stop and no more, and
the triggers stay as they are until the tasks are counted. -/
namespace Turnstile
open Procedure

namespace Webhook
variable {now : Instant} {b after : Backend} {ns name : String} {trigger : WebhookTrigger}

theorem activeAttempt {trigger : String} {rule : Option String} {reply : Except StoreError (List Task)}
    (attempt : Attempt Call.OfTasks now (activeTasks ns trigger rule) b reply after) :
    after = b ∧ ∀ tasks, reply = .ok tasks → tasks = b.store.occupants (scope ns trigger rule) := by
  unfold activeTasks at attempt
  obtain ⟨listed, middle, read, rest⟩ := attempt.bind
  rcases read.ask with ⟨answered, still⟩ | ⟨-, still, failure, answered⟩
  · replace answered : listed = .ok (b.store.list .task (scope ns trigger rule)) := answered
    replace still : middle = b := still
    rw [answered, still] at rest
    cases rest
    exact ⟨rfl, fun tasks same => (Except.ok.inj same).symm⟩
  · replace answered : listed = .error _ := answered
    rw [answered, still] at rest
    cases rest
    exact ⟨rfl, fun tasks same => nomatch same⟩

theorem enforceAttempt {policy : ConcurrencyPolicy} {trigger : String} {rule : Option String}
    {reply : Except StoreError Bool}
    (attempt : Attempt Call.OfTasks now (enforce policy ns trigger rule) b reply after) :
    b.Aside (scope ns trigger rule) after := by
  cases policy with
  | allow =>
    cases attempt
    exact .same _ _
  | forbid =>
    obtain ⟨listed, middle, read, rest⟩ := attempt.bind
    obtain ⟨rfl, -⟩ := activeAttempt read
    cases listed <;> (cases rest; exact .same _ _)
  | replace =>
    obtain ⟨listed, middle, read, rest⟩ := attempt.bind
    obtain ⟨rfl, occupants⟩ := activeAttempt read
    cases listed with
    | error e =>
      cases rest
      exact .same _ _
    | ok tasks =>
      obtain ⟨u, last, stopped, rest⟩ := rest.bind
      cases rest
      refine stopAllAttempt stopped fun task inside t found => ?_
      rw [occupants tasks rfl] at inside
      obtain ⟨stored, busy⟩ := Store.memOccupants.mp inside
      cases stored.symm.trans found
      exact (Task.occupiesIff.mp busy).1

structure Adds (trigger : WebhookTrigger) (b : Backend) (made : List Made) (after : Backend) : Prop where
  new : ∀ m ∈ made, b.store.get? .task m.task = none
  distinct : (made.map Made.task).Nodup
  stored : ∀ m ∈ made, ∃ t, after.store.get? .task m.task = some t ∧
    (scope trigger.metadata.ns trigger.metadata.name m.rule).matchesMetadata t.metadata = true
  others : ∀ key, key ∉ made.map Made.task →
    (after.store.get? .task key).map Task.unmarked = (b.store.get? .task key).map Task.unmarked
  triggers : after.store.triggers = b.store.triggers

namespace Adds
variable {made more : List Made} {middle : Backend} {selector : Selector}

theorem aside (trigger : WebhookTrigger) (aside : b.Aside selector after) : Adds trigger b [] after where
  new _ inside := nomatch inside
  distinct := List.nodup_nil
  stored _ inside := nomatch inside
  others key _ := aside.1.rest key
  triggers := aside.2

theorem idle (trigger : WebhookTrigger) (b : Backend) : Adds trigger b [] b :=
  .aside trigger (.same .all b)

theorem absent (adds : Adds trigger b made after) {key : Key} (apart : key ∉ made.map Made.task) :
    after.store.get? .task key = none ↔ b.store.get? .task key = none := by
  rw [← Option.map_eq_none_iff (f := Task.unmarked), adds.others key apart, Option.map_eq_none_iff]

theorem origin (adds : Adds trigger b made after) {key : Key} {t : Task} (apart : key ∉ made.map Made.task)
    (found : after.store.get? .task key = some t) :
    ∃ old, b.store.get? .task key = some old ∧ old.unmarked = t.unmarked := by
  have before := adds.others key apart
  rw [found] at before
  exact Option.map_eq_some_iff.mp before.symm

theorem trans (first : Adds trigger b made middle) (second : Adds trigger middle more after) :
    Adds trigger b (made ++ more) after := by
  -- what was made first is there by then, and so cannot be new to the second part
  have apart : ∀ m ∈ made, m.task ∉ more.map Made.task := by
    intro m inside listed
    obtain ⟨u, there, same⟩ := List.mem_map.mp listed
    obtain ⟨t, stored, -⟩ := first.stored m inside
    rw [← same, second.new u there] at stored
    cases stored
  have before : ∀ u ∈ more, u.task ∉ made.map Made.task := by
    intro u there listed
    obtain ⟨m, inside, same⟩ := List.mem_map.mp listed
    exact apart m inside (same ▸ List.mem_map_of_mem there)
  refine ⟨fun m inside => ?_, ?_, fun m inside => ?_, fun key outside => ?_,
    second.triggers.trans first.triggers⟩
  · rcases List.mem_append.mp inside with early | late
    · exact first.new m early
    · exact (first.absent (before m late)).mp (second.new m late)
  · rw [List.map_append]
    refine List.nodup_append.mpr ⟨first.distinct, second.distinct, fun key early other late same => ?_⟩
    obtain ⟨m, inside, rfl⟩ := List.mem_map.mp early
    exact apart m inside (same ▸ late)
  · rcases List.mem_append.mp inside with early | late
    · obtain ⟨t, stored, carries⟩ := first.stored m early
      have kept := second.others m.task (apart m early)
      rw [stored] at kept
      obtain ⟨u, there, same⟩ := Option.map_eq_some_iff.mp kept
      exact ⟨u, there, by rw [Task.matchesUnmarked same]; exact carries⟩
    · exact second.stored m late
  · rw [List.map_append, List.mem_append, not_or] at outside
    exact (second.others key outside.2).trans (first.others key outside.1)

end Adds

theorem makeTaskAttempt {d : Draft} {reply : Except StoreError (Option Made)}
    (attempt : Attempt Call.OfTasks now (makeTask trigger name d) b reply after) :
    match reply with
    | .ok (some m) => m.rule = d.rule ∧ Adds trigger b [m] after
    | _ => Adds trigger b [] after := by
  unfold makeTask at attempt
  obtain ⟨allowed, middle, enforced, rest⟩ := attempt.bind
  have aside := enforceAttempt enforced
  rcases allowed with e | (_ | _)
  · cases rest
    exact .aside trigger aside
  · cases rest
    exact .aside trigger aside
  · dsimp only at rest
    obtain ⟨created, last, asked, rest⟩ := rest.bind
    rcases asked.ask with ⟨answered, left⟩ | ⟨-, left, failure, answered⟩
    · subst left
      have triggers : (middle.perform now (.create .task (newTask trigger d name))).2.store.triggers =
        middle.store.triggers := rfl
      rcases middle.createTask now (newTask trigger d name) with
        ⟨e, refused, tasks, -⟩ | ⟨version, made, vacant, put⟩
      · rw [answered, refused] at rest
        cases rest
        exact .aside trigger (aside.trans ⟨.same tasks, triggers⟩)
      · rw [answered, made] at rest
        cases rest
        refine ⟨rfl, ?_⟩
        have one : Adds trigger middle [⟨d.rule, ⟨trigger.metadata.ns, name⟩⟩]
            (middle.perform now (.create .task (newTask trigger d name))).2 := by
          refine ⟨fun m inside => ?_, List.nodup_singleton _, fun m inside => ?_, fun key apart => ?_, triggers⟩
          · rw [List.mem_singleton.mp inside]
            exact vacant
          · rw [List.mem_singleton.mp inside]
            exact ⟨_, Store.putSame put, newTaskScoped trigger d name⟩
          · refine congrArg _ (Store.putOther put ?_)
            exact fun same => apart (List.mem_singleton.mpr same)
        exact (Adds.aside trigger aside).trans one
    · replace answered : created = .error _ := answered
      rw [answered, left] at rest
      cases rest
      exact .aside trigger aside

theorem makeTasksAttempt {names : Nat → String} {made : List Made} {ds : List Draft}
    {result : List Made × Option StoreError}
    (attempt : Attempt Call.OfTasks now (makeTasks trigger names made ds) b result after) :
    ∃ more, result.1 = made ++ more ∧ Adds trigger b more after ∧ ∀ m ∈ more, ∃ d ∈ ds, m.rule = d.rule := by
  induction ds generalizing made b with
  | nil =>
    cases attempt
    exact ⟨[], (List.append_nil made).symm, .idle trigger _, nofun⟩
  | cons d rest ih =>
    unfold makeTasks at attempt
    obtain ⟨reply, middle, first, later⟩ := attempt.bind
    have one := makeTaskAttempt first
    have listed : ∀ {more : List Made}, (∀ m ∈ more, ∃ d ∈ rest, m.rule = d.rule) →
        ∀ m ∈ more, ∃ other ∈ d :: rest, m.rule = other.rule := by
      intro more drafted m inside
      obtain ⟨other, there, same⟩ := drafted m inside
      exact ⟨other, List.mem_cons_of_mem _ there, same⟩
    rcases reply with e | (_ | m)
    · cases later
      exact ⟨[], (List.append_nil made).symm, one, nofun⟩
    · obtain ⟨more, same, adds, drafted⟩ := ih later
      exact ⟨more, same, one.trans adds, listed drafted⟩
    · obtain ⟨more, same, adds, drafted⟩ := ih later
      refine ⟨m :: more, same.trans (List.append_assoc ..), one.2.trans adds, fun u inside => ?_⟩
      rcases List.mem_cons.mp inside with rfl | there
      · exact ⟨d, List.mem_cons_self, one.1⟩
      · exact listed drafted u there

theorem carryOutAttempt {p : Plan} {names : Nat → String} {delivery : Delivery}
    (attempt : Attempt Call.OfTasks now (p.carryOut names now) b delivery after) :
    ∃ made middle, Adds p.trigger b made middle ∧ (∀ m ∈ made, ∃ d ∈ p.drafts, m.rule = d.rule) ∧
      ((made = [] ∧ after = middle) ∨ middle.Rebooked p.trigger.key (countAll now made) after) := by
  unfold Plan.carryOut at attempt
  split at attempt
  · cases attempt
    exact ⟨[], _, .idle p.trigger _, nofun, .inl ⟨rfl, rfl⟩⟩
  · obtain ⟨⟨made, failure⟩, middle, making, rest⟩ := attempt.bind
    obtain ⟨more, same, adds, drafted⟩ := makeTasksAttempt making
    obtain rfl : made = more := same
    refine ⟨made, middle, adds, drafted, ?_⟩
    cases made with
    | nil =>
      cases failure <;> (cases rest; exact .inl ⟨rfl, rfl⟩)
    | cons m others =>
      obtain ⟨u, last, recorded, rest⟩ := Attempt.bind rest
      have rebooked := recordRebooks recorded
      cases failure <;> (cases rest; exact .inr rebooked)

end Webhook
end Turnstile
