import Turnstile.Proofs.Webhook.Scope
import Turnstile.Proofs.Webhook.Writes
/-! What the drafts of a request come to, one after another: a task skipped, refused or made
in its scope, and what is stored after each. -/
namespace Turnstile
namespace Webhook

theorem newTaskLabels (trigger : WebhookTrigger) (d : Draft) (name label : String) :
    (newTask trigger d name).metadata.labels.get? label =
      if label = ruleLabel ∧ d.rule.isSome then d.rule
      else if label = triggerLabel then some trigger.metadata.name
      else d.labels.get? label := by
  have under : (d.labels.insert triggerLabel trigger.metadata.name).get? label =
      if label = triggerLabel then some trigger.metadata.name else d.labels.get? label := by
    split
    · rename_i same
      rw [same]
      exact SortedMap.getInsertSame _ _ _
    · rename_i other
      exact SortedMap.getInsertOther _ _ other
  cases named : d.rule with
  | none => simp only [newTask, named, Option.isSome_none, Bool.false_eq_true, and_false, if_false, under]
  | some rule =>
    simp only [newTask, named, Option.isSome_some, and_true]
    split
    · rename_i same
      rw [same]
      exact SortedMap.getInsertSame _ _ _
    · rename_i other
      rw [SortedMap.getInsertOther _ _ other]
      exact under

inductive Making (trigger : WebhookTrigger) (name : String) (d : Draft) (now : Instant) (b : Backend) :
    Except StoreError (Option Made) → Backend → Prop where
  | skipped {after} (busy : admits d.policy b.store (scope trigger.metadata.ns trigger.metadata.name d.rule) = false)
      (marked : b.Marked (scope trigger.metadata.ns trigger.metadata.name d.rule) after) :
      Making trigger name d now b (.ok none) after
  | refused {e middle after}
      (marked : b.Marked (scope trigger.metadata.ns trigger.metadata.name d.rule) middle)
      (same : after.store.tasks = middle.store.tasks)
      (cause : name = "" ∨ trigger.metadata.ns = "" ∨
        middle.store.get? .task ⟨trigger.metadata.ns, name⟩ ≠ none) :
      Making trigger name d now b (.error e) after
  | made {version middle after}
      (free : admits d.policy b.store (scope trigger.metadata.ns trigger.metadata.name d.rule) = true)
      (marked : b.Marked (scope trigger.metadata.ns trigger.metadata.name d.rule) middle)
      (vacant : middle.store.get? .task ⟨trigger.metadata.ns, name⟩ = none)
      (put : after.store.tasks =
        middle.store.tasks.put (Collection.firstWrite (k := .task) version now (newTask trigger d name))) :
      Making trigger name d now b (.ok (some ⟨d.rule, ⟨trigger.metadata.ns, name⟩⟩)) after

theorem makeTaskMakes (trigger : WebhookTrigger) (name : String) (d : Draft) (now : Instant) (b : Backend) :
    Making trigger name d now b ((makeTask trigger name d).run now b).1
      ((makeTask trigger name d).run now b).2 := by
  obtain ⟨middle, enforced, marked⟩ :=
    enforceRun d.policy trigger.metadata.ns trigger.metadata.name d.rule now b
  unfold makeTask
  rw [Procedure.run] at enforced ⊢
  rw [Procedure.runBind, enforced]
  cases free : admits d.policy b.store (scope trigger.metadata.ns trigger.metadata.name d.rule) with
  | false => exact .skipped free marked
  | true =>
    have asked : (Procedure.ask (.create .task (newTask trigger d name))).runWith (Backend.perform now) middle =
      middle.perform now (.create .task (newTask trigger d name)) := rfl
    dsimp only
    rw [Procedure.runBind, asked]
    rcases middle.createTask now (newTask trigger d name) with
      ⟨e, reply, left, cause⟩ | ⟨version, reply, vacant, left⟩
    · rw [reply]
      exact .refused marked left cause
    · rw [reply]
      exact .made free marked vacant left

inductive Makes (trigger : WebhookTrigger) (names : Nat → String) (now : Instant) :
    Nat → Backend → List Draft → List Made × Option StoreError → Backend → Prop where
  | done {n b} : Makes trigger names now n b [] ([], none) b
  | skipped {n b middle after d ds result} (one : Making trigger (names n) d now b (.ok none) middle)
      (rest : Makes trigger names now n middle ds result after) :
      Makes trigger names now n b (d :: ds) result after
  | refused {n b after d ds e} (one : Making trigger (names n) d now b (.error e) after) :
      Makes trigger names now n b (d :: ds) ([], some e) after
  | made {n b middle after d ds m out failure}
      (one : Making trigger (names n) d now b (.ok (some m)) middle)
      (rest : Makes trigger names now (n + 1) middle ds (out, failure) after) :
      Makes trigger names now n b (d :: ds) (m :: out, failure) after

inductive Course (trigger : WebhookTrigger) (names : Nat → String) (now : Instant) :
    Nat → Backend → List Draft → List Made × Option StoreError → Backend → Prop where
  | done {n b} : Course trigger names now n b [] ([], none) b
  | skipped {n b middle after d ds result}
      (one : (makeTask trigger (names n) d).run now b = (.ok none, middle))
      (rest : Course trigger names now n middle ds result after) :
      Course trigger names now n b (d :: ds) result after
  | refused {n b after d ds e} (one : (makeTask trigger (names n) d).run now b = (.error e, after)) :
      Course trigger names now n b (d :: ds) ([], some e) after
  | made {n b middle after d ds m out failure}
      (one : (makeTask trigger (names n) d).run now b = (.ok (some m), middle))
      (rest : Course trigger names now (n + 1) middle ds (out, failure) after) :
      Course trigger names now n b (d :: ds) (m :: out, failure) after

theorem makeTasksCourse (trigger : WebhookTrigger) (names : Nat → String) (made : List Made)
    (ds : List Draft) (now : Instant) (b : Backend) : ∃ out failure after,
    (makeTasks trigger names made ds).run now b = ((made ++ out, failure), after) ∧
    Course trigger names now made.length b ds (out, failure) after := by
  induction ds generalizing made b with
  | nil => exact ⟨[], none, b, by rw [List.append_nil]; rfl, .done⟩
  | cons d ds ih =>
    have one : (makeTask trigger (names made.length) d).run now b =
      (makeTask trigger (names made.length) d).runWith (Backend.perform now) b := rfl
    unfold makeTasks
    rw [Procedure.run, Procedure.runBind]
    generalize (makeTask trigger (names made.length) d).runWith (Backend.perform now) b = result at one ⊢
    obtain ⟨reply, middle⟩ := result
    rcases reply with e | m | m
    · exact ⟨[], some e, middle, by rw [List.append_nil]; rfl, .refused one⟩
    · obtain ⟨out, failure, after, run, rest⟩ := ih made middle
      exact ⟨out, failure, after, run, .skipped one rest⟩
    · obtain ⟨out, failure, after, run, rest⟩ := ih (made ++ [m]) middle
      rw [List.length_append] at rest
      refine ⟨m :: out, failure, after, ?_, .made one rest⟩
      rw [← List.append_cons] at run
      exact run

theorem Course.makes {trigger : WebhookTrigger} {names : Nat → String} {now : Instant} {n : Nat}
    {b after : Backend} {ds : List Draft} {result : List Made × Option StoreError}
    (course : Course trigger names now n b ds result after) :
    Makes trigger names now n b ds result after := by
  have makes : ∀ {n b d reply middle}, (makeTask trigger (names n) d).run now b = (reply, middle) →
      Making trigger (names n) d now b reply middle := by
    intro n b d reply middle one
    have making := makeTaskMakes trigger (names n) d now b
    rw [one] at making
    exact making
  induction course with
  | done => exact .done
  | skipped one _ ih => exact .skipped (makes one) ih
  | refused one => exact .refused (makes one)
  | made one _ ih => exact .made (makes one) ih

theorem carryOutCourse (p : Plan) (names : Nat → String) (now : Instant) (b : Backend) :
    ∃ made failure after, Course p.trigger names now 0 b p.drafts (made, failure) after ∧
      ((p.carryOut names now).run now b).2 = (if made.isEmpty then after
        else ((record now p.trigger.key made conflictAttempts).run now after).2) ∧
      ((p.carryOut names now).run now b).2.store.tasks = after.store.tasks ∧
      ((p.carryOut names now).run now b).1.outcome = match failure with
        | some e => .error (.store e)
        | none => .ok (if p.drafts.isEmpty then .filtered
            else if made.isEmpty then .skipped else .created (made.map (·.task))) := by
  unfold Plan.carryOut
  cases drafts : p.drafts with
  | nil => exact ⟨[], none, b, .done, rfl, rfl, rfl⟩
  | cons d ds =>
    obtain ⟨out, failure, after, run, course⟩ := makeTasksCourse p.trigger names [] (d :: ds) now b
    refine ⟨out, failure, after, course, ?_⟩
    rw [List.nil_append, Procedure.run] at run
    rw [List.isEmpty_cons, if_neg Bool.false_ne_true, Procedure.run, Procedure.runBind, run]
    cases out with
    | nil => cases failure <;> exact ⟨rfl, rfl, rfl⟩
    | cons m rest =>
      have recorded := Procedure.onTriggersRun
        (recordOnTriggers now p.trigger.key (m :: rest) conflictAttempts) now after
      simp only [List.isEmpty_cons, Bool.not_false, if_true, Procedure.runBind]
      cases failure <;> exact ⟨rfl, recorded, rfl⟩

theorem carryOutMakes (p : Plan) (names : Nat → String) (now : Instant) (b : Backend) :
    ∃ made failure after, Makes p.trigger names now 0 b p.drafts (made, failure) after ∧
      ((p.carryOut names now).run now b).2.store.tasks = after.store.tasks ∧
      ((p.carryOut names now).run now b).1.outcome = match failure with
        | some e => .error (.store e)
        | none => .ok (if p.drafts.isEmpty then .filtered
            else if made.isEmpty then .skipped else .created (made.map (·.task))) := by
  obtain ⟨made, failure, after, course, -, rest⟩ := carryOutCourse p names now b
  exact ⟨made, failure, after, course.makes, rest⟩

end Webhook
end Turnstile
