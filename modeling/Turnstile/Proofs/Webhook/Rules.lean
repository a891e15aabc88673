import Turnstile.Proofs.Webhook.Judging
import Turnstile.Proofs.Webhook.Making
/-! Rules beside one another. The tasks that the drafts of a request make lie in scopes of
their own, so what is admitted for one is what was admitted before the request, and the task
made for one is left alone by the others. -/
namespace Turnstile.Webhook

theorem keyOfPathHome {path : String} {key : Key} (found : keyOfPath? path = some key) : key.ns ≠ "" := by
  unfold keyOfPath? at found
  split at found
  · split at found
    · cases found
    · rename_i ns name _ whole
      cases found
      intro empty
      rw [String.ofList_eq_empty_iff] at empty
      rw [empty] at whole
      exact whole rfl
  · cases found

variable {trigger : WebhookTrigger} {names : Nat → String} {name : String} {now : Instant}
  {b after : Backend} {key : Key} {n : Nat} {ds : List Draft}

namespace Making
variable {d : Draft} {t : Task} {result : Except StoreError (Option Made)}

theorem keeps (making : Making trigger name d now b result after) (stored : b.store.get? .task key = some t)
    (outside : (scope trigger.metadata.ns trigger.metadata.name d.rule).matchesMetadata t.metadata = false) :
    after.store.get? .task key = some t := by
  have same : ∀ {middle : Backend}, b.Marked (scope trigger.metadata.ns trigger.metadata.name d.rule) middle →
      middle.store.get? .task key = some t := by
    intro middle marked
    rcases marked key with kept | ⟨old, u, before, -, busy, -⟩
    · exact kept.trans stored
    · rw [stored] at before
      cases before
      rw [(Task.occupiesIff.mp busy).1] at outside
      cases outside
  cases making with
  | skipped busy marked => exact same marked
  | refused marked tasks => exact (Store.sameFound tasks key).trans (same marked)
  | made free marked vacant put =>
    refine (Store.putOther put ?_).trans (same marked)
    rintro rfl
    exact absurd (vacant.symm.trans (same marked)) nofun

end Making

theorem Makes.keeps {result} (makes : Makes trigger names now n b ds result after) {t : Task}
    (stored : b.store.get? .task key = some t)
    (outside : ∀ d ∈ ds,
      (scope trigger.metadata.ns trigger.metadata.name d.rule).matchesMetadata t.metadata = false) :
    after.store.get? .task key = some t := by
  induction makes with
  | done => exact stored
  | skipped one _ ih | made one _ ih =>
    exact ih (one.keeps stored (outside _ List.mem_cons_self))
      fun d inside => outside d (List.mem_cons_of_mem _ inside)
  | refused one => exact one.keeps stored (outside _ List.mem_cons_self)

theorem Makes.others {result} (makes : Makes trigger names now n b ds result after)
    (apart : key ∉ result.1.map Made.task) :
    (after.store.get? .task key).map Task.unmarked = (b.store.get? .task key).map Task.unmarked := by
  induction makes with
  | done => rfl
  | skipped one _ ih =>
    cases one with
    | skipped busy marked => exact (ih apart).trans (marked.rest key)
  | refused one =>
    cases one with
    | refused marked tasks => exact (congrArg _ (Store.sameFound tasks key)).trans (marked.rest key)
  | made one _ ih =>
    rw [List.map_cons, List.mem_cons, not_or] at apart
    cases one with
    | made free marked vacant put =>
      exact (ih apart.2).trans ((congrArg _ (Store.putOther put apart.1)).trans (marked.rest key))

theorem putVacant {s later : Store} {t : Task} {selector : Selector} (put : later.tasks = s.tasks.put t)
    (new : s.get? .task t.key = none) (outside : selector.matchesMetadata t.metadata = false) :
    (later.occupants selector).isEmpty = (s.occupants selector).isEmpty := by
  rw [Bool.eq_iff_iff, Store.vacantIff, Store.vacantIff]
  constructor
  · intro none key u stored
    have other : key ≠ t.key := by
      rintro rfl
      exact absurd (new.symm.trans stored) nofun
    exact none key u ((Store.putOther put other).trans stored)
  · intro none key u found
    by_cases own : key = t.key
    · rw [own, Store.putSame put] at found
      cases found
      exact Bool.and_eq_false_imp.mpr fun taken => absurd (taken.symm.trans outside) nofun
    · exact none key u ((Store.putOther put own).symm.trans found)

theorem newTaskOutside {d other : Draft} (ruled : d.rule.isSome = true) (ruled' : other.rule.isSome = true)
    (apart : d.rule ≠ other.rule) (name : String) :
    (scope trigger.metadata.ns trigger.metadata.name other.rule).matchesMetadata
      (newTask trigger d name).metadata = false := by
  refine Bool.eq_false_iff.mpr fun carries => ?_
  obtain ⟨rule, named⟩ := Option.isSome_iff_exists.mp ruled'
  have label := (scopeIff.mp carries).2.2 rule named
  rw [newTaskLabels, if_pos ⟨rfl, ruled⟩, ← named] at label
  exact apart label

theorem newTaskScoped (trigger : WebhookTrigger) (d : Draft) (name : String) :
    (scope trigger.metadata.ns trigger.metadata.name d.rule).matchesMetadata
      (newTask trigger d name).metadata = true := by
  have differ : triggerLabel ≠ ruleLabel := by decide
  refine scopeIff.mpr ⟨rfl, ?_, fun rule named => ?_⟩
  · rw [newTaskLabels, if_neg (fun both => differ both.1), if_pos rfl]
  · rw [newTaskLabels, if_pos ⟨rfl, by rw [named]; rfl⟩, named]

def Draft.isAdmitted (d : Draft) (trigger : WebhookTrigger) (s : Store) : Bool :=
  admits d.policy s (scope trigger.metadata.ns trigger.metadata.name d.rule)

theorem Making.admitted {d other : Draft} {result} (making : Making trigger name d now b result after)
    (ruled : d.rule.isSome = true) (ruled' : other.rule.isSome = true) (apart : d.rule ≠ other.rule) :
    other.isAdmitted trigger after.store = other.isAdmitted trigger b.store := by
  unfold Draft.isAdmitted admits
  cases making with
  | skipped busy marked => rw [marked.vacant]
  | refused marked tasks =>
    have same : b.Marked _ after := marked.trans (.same tasks)
    rw [same.vacant]
  | made free marked vacant put =>
    rw [putVacant put vacant (newTaskOutside ruled ruled' apart name), marked.vacant]

theorem Making.laterAdmitted {d : Draft} {result} (making : Making trigger name d now b result after)
    (apart : ((d :: ds).map Draft.rule).Nodup) (ruled : ∀ other ∈ d :: ds, other.rule.isSome = true) :
    ds.filter (·.isAdmitted trigger after.store) = ds.filter (·.isAdmitted trigger b.store) :=
  List.filter_congr fun other inside => making.admitted (ruled d List.mem_cons_self)
    (ruled other (List.mem_cons_of_mem _ inside)) fun twin =>
      (List.nodup_cons.mp apart).1 (List.mem_map.mpr ⟨other, inside, twin.symm⟩)

structure Fresh (ns : String) (names : Nat → String) (s : Store) (n count : Nat) : Prop where
  named : ∀ i, n ≤ i → i < n + count → names i ≠ ""
  free : ∀ i, n ≤ i → i < n + count → s.get? .task ⟨ns, names i⟩ = none
  distinct : ∀ i j, n ≤ i → i < j → j < n + count → names i ≠ names j

namespace Fresh
variable {ns : String} {s later : Store} {count : Nat}

theorem skipped (fresh : Fresh ns names s n (count + 1))
    (absent : ∀ key, later.get? .task key = none ↔ s.get? .task key = none) :
    Fresh ns names later n count where
  named i above below := fresh.named i above (Nat.lt_succ_of_lt below)
  free i above below := (absent _).mpr (fresh.free i above (Nat.lt_succ_of_lt below))
  distinct i j above less below := fresh.distinct i j above less (Nat.lt_succ_of_lt below)

theorem taken (fresh : Fresh ns names s n (count + 1))
    (others : ∀ key, key ≠ ⟨ns, names n⟩ → (later.get? .task key = none ↔ s.get? .task key = none)) :
    Fresh ns names later (n + 1) count where
  named i above below := fresh.named i (by omega) (by omega)
  free i above below := by
    refine (others _ fun same => ?_).mpr (fresh.free i (by omega) (by omega))
    exact fresh.distinct n i (Nat.le_refl _) above (by omega) (Key.mk.inj same).2.symm
  distinct i j above less below := fresh.distinct i j (by omega) less (by omega)

end Fresh

theorem Makes.chosen {result} (makes : Makes trigger names now n b ds result after)
    (home : trigger.metadata.ns ≠ "") (fresh : Fresh trigger.metadata.ns names b.store n ds.length)
    (apart : (ds.map Draft.rule).Nodup) (ruled : ∀ d ∈ ds, d.rule.isSome = true) :
    result = ((ds.filter (·.isAdmitted trigger b.store)).mapIdx fun i d =>
      ⟨d.rule, ⟨trigger.metadata.ns, names (n + i)⟩⟩, none) ∧
    ∀ i d, (ds.filter (·.isAdmitted trigger b.store))[i]? = some d → ∃ version,
      after.store.get? .task ⟨trigger.metadata.ns, names (n + i)⟩ =
        some (Collection.firstWrite (k := .task) version now (newTask trigger d (names (n + i)))) := by
  induction makes with
  | done => exact ⟨rfl, fun _ _ found => nomatch found⟩
  | @skipped n b middle after d ds result one rest ih =>
    have same := one.laterAdmitted apart ruled
    cases one with
    | skipped busy marked =>
      have passed : (d :: ds).filter (·.isAdmitted trigger b.store) = ds.filter (·.isAdmitted trigger b.store) :=
        List.filter_cons_of_neg (Bool.eq_false_iff.mp busy)
      rw [passed, ← same]
      exact ih (fresh.skipped fun key => marked.absent) (List.nodup_cons.mp apart).2 fun other inside =>
        ruled other (List.mem_cons_of_mem _ inside)
  | @refused n b after d ds e one =>
    have below : n < n + (d :: ds).length := by simp
    cases one with
    | refused marked tasks cause =>
      rcases cause with name | ns | taken
      · exact absurd name (fresh.named n (Nat.le_refl n) below)
      · exact absurd ns home
      · exact absurd (marked.absent.mpr (fresh.free n (Nat.le_refl n) below)) taken
  | @made n b middle after d ds m out failure one rest ih =>
    have same := one.laterAdmitted apart ruled
    obtain ⟨others, apart⟩ := List.nodup_cons.mp apart
    cases one with
    | @made version marks _ free marked vacant put =>
      have passed : (d :: ds).filter (·.isAdmitted trigger b.store) =
        d :: ds.filter (·.isAdmitted trigger b.store) := List.filter_cons_of_pos free
      obtain ⟨made, stored⟩ := ih (fresh.taken fun key other => by
          rw [Store.putOther put other]
          exact marked.absent)
        apart fun other inside => ruled other (List.mem_cons_of_mem _ inside)
      rw [same] at made stored
      cases made
      have shift : ∀ i, n + 1 + i = n + (i + 1) := fun i => by omega
      rw [passed]
      refine ⟨by simp only [List.mapIdx_cons, Nat.add_zero, shift], fun i other found => ?_⟩
      cases i with
      | zero =>
        cases found
        -- the drafts that follow are for other rules, so they leave this task alone
        exact ⟨version, rest.keeps (Store.putSame put) fun other inside =>
          newTaskOutside (ruled d List.mem_cons_self) (ruled other (List.mem_cons_of_mem _ inside))
            (fun twin => others (List.mem_map.mpr ⟨other, inside, twin.symm⟩)) (names n)⟩
      | succ i =>
        rw [← shift]
        exact stored i other found

inductive Drafted (spec : TriggerSpec) (body : Json) : List WebhookRule → List Draft → Prop where
  | nil : Drafted spec body [] []
  | cons {rule s rules ds} (rendered : rule.taskTemplate.render body = .ok s)
      (rest : Drafted spec body rules ds) :
      Drafted spec body (rule :: rules)
        (⟨some rule.name, spec.policyFor rule, rule.taskTemplate.labels, s⟩ :: ds)

theorem ruleDrafts (spec : TriggerSpec) {body : Json} {rules : List WebhookRule}
    (templates : ∀ rule ∈ rules, ∃ s, rule.taskTemplate.render body = .ok s) :
    ∃ ds, drafts body (rules.map spec.candidate) = .ok ds ∧ Drafted spec body rules ds := by
  induction rules with
  | nil => exact ⟨[], rfl, .nil⟩
  | cons rule rest ih =>
    obtain ⟨s, rendered⟩ := templates rule List.mem_cons_self
    obtain ⟨ds, others, drafted⟩ := ih fun other inside => templates other (List.mem_cons_of_mem _ inside)
    refine ⟨_, ?_, .cons rendered drafted⟩
    simp only [List.map_cons, drafts, Candidate.draft, TriggerSpec.candidate, rendered]
    rw [others]

def admitsRule (trigger : WebhookTrigger) (s : Store) (rule : WebhookRule) : Bool :=
  admits (trigger.spec.policyFor rule) s
    (scope trigger.metadata.ns trigger.metadata.name (some rule.name))

namespace Drafted
variable {body : Json} {rules : List WebhookRule}

theorem named {spec : TriggerSpec} (drafted : Drafted spec body rules ds) :
    ds.map Draft.rule = (rules.map WebhookRule.name).map some := by
  induction drafted with
  | nil => rfl
  | cons rendered rest ih => rw [List.map_cons, ih]; rfl

theorem admitted (drafted : Drafted trigger.spec body rules ds) (s : Store) :
    Drafted trigger.spec body (rules.filter (admitsRule trigger s))
      (ds.filter (·.isAdmitted trigger s)) := by
  induction drafted with
  | nil => exact .nil
  | @cons rule spec rules ds rendered rest ih =>
    have same : Draft.isAdmitted ⟨some rule.name, trigger.spec.policyFor rule, rule.taskTemplate.labels, spec⟩
      trigger s = admitsRule trigger s rule := rfl
    rw [List.filter_cons, List.filter_cons, same]
    cases admitsRule trigger s rule with
    | false => exact ih
    | true => exact .cons rendered ih

theorem sameLength {spec : TriggerSpec} (drafted : Drafted spec body rules ds) : ds.length = rules.length := by
  induction drafted with
  | nil => rfl
  | cons _ _ ih => rw [List.length_cons, List.length_cons, ih]

theorem ruled {spec : TriggerSpec} (drafted : Drafted spec body rules ds) :
    ∀ d ∈ ds, d.rule.isSome = true := by
  intro d inside
  have listed : d.rule ∈ ds.map Draft.rule := List.mem_map.mpr ⟨d, inside, rfl⟩
  rw [drafted.named] at listed
  obtain ⟨name, -, same⟩ := List.mem_map.mp listed
  rw [← same]
  rfl

theorem isEmpty {spec : TriggerSpec} (drafted : Drafted spec body rules ds) : ds.isEmpty = rules.isEmpty := by
  cases drafted <;> rfl

theorem draftAt {spec : TriggerSpec} (drafted : Drafted spec body rules ds) {i : Nat} {rule : WebhookRule}
    (found : rules[i]? = some rule) : ∃ s, rule.taskTemplate.render body = .ok s ∧
      ds[i]? = some ⟨some rule.name, spec.policyFor rule, rule.taskTemplate.labels, s⟩ := by
  induction drafted generalizing i with
  | nil => cases found
  | cons rendered rest ih =>
    cases i with
    | zero =>
      cases found
      exact ⟨_, rendered, rfl⟩
    | succ i => exact ih found

end Drafted

/-- The request is for the trigger, is authenticated, and its JSON passes the trigger's filter. -/
structure Heard (registry : Registry) (sources : SecretSources) (request : WebhookRequest)
    (trigger : WebhookTrigger) (body : Json) : Prop where
  served : ∃ key, keyOfPath? request.path = some key ∧ registry.get? key = some trigger
  identified : identify sources trigger request = .ok ()
  payload : payload? request = some body
  accepted : Filter.verdict trigger.spec.filter body (headersPayload request.headers) = .ok true

def matched (trigger : WebhookTrigger) (body headers : Json) : List WebhookRule :=
  trigger.spec.rules.filter (·.fires body headers)

theorem heardJudged {registry : Registry} {sources : SecretSources} {engine : FilterEngine}
    {request : WebhookRequest} {body : Json} (served : registry.Sound) (sound : engine.Sound)
    (heard : Heard registry sources request trigger body) (ruled : trigger.spec.rules ≠ [])
    (filters : ∀ rule ∈ trigger.spec.rules, ∃ accepted,
      Filter.verdict rule.filter body (headersPayload request.headers) = .ok accepted)
    (templates : ∀ rule ∈ matched trigger body (headersPayload request.headers),
      ∃ s, rule.taskTemplate.render body = .ok s) :
    ∃ ds later, judge registry sources engine request = (.ok ⟨trigger, ds⟩, later) ∧
      Drafted trigger.spec body (matched trigger body (headersPayload request.headers)) ds := by
  obtain ⟨key, path, found⟩ := heard.served
  have received : receive registry sources request = .ok (trigger, body) := by
    simp only [receive, path, found, heard.identified, heard.payload]
  have bare := TriggerSpec.rulesOnly (served.valid key trigger found) ruled
  obtain ⟨later, fired⟩ := acceptedFires sound heard.accepted bare filters
  obtain ⟨ds, rendered, drafted⟩ := ruleDrafts trigger.spec templates
  rw [matched] at rendered
  refine ⟨ds, later, ?_, drafted⟩
  simp only [judge, received, fired, rendered]

/-- A task for a rule, as the rule alone would make it. -/
structure TaskOf (trigger : WebhookTrigger) (body : Json) (rule : WebhookRule) (t : Task) : Prop where
  spec : rule.taskTemplate.render body = .ok t.spec
  labels : ∀ label, t.metadata.labels.get? label =
    if label = ruleLabel then some rule.name
    else if label = triggerLabel then some trigger.metadata.name
    else rule.taskTemplate.labels.get? label
  status : t.status = .fresh
  unmarked : t.metadata.annotations = .empty

theorem carryOutRules {body : Json} {rules : List WebhookRule} (drafted : Drafted trigger.spec body rules ds)
    (home : trigger.metadata.ns ≠ "") (apart : (rules.map WebhookRule.name).Nodup)
    (fresh : Fresh trigger.metadata.ns names b.store 0 rules.length) :
    ((Plan.carryOut ⟨trigger, ds⟩ names now).run now b).1.outcome = .ok (
      if rules.isEmpty then .filtered
      else if (rules.filter (admitsRule trigger b.store)).isEmpty then .skipped
      else .created ((List.range (rules.filter (admitsRule trigger b.store)).length).map
        fun i => ⟨trigger.metadata.ns, names i⟩)) ∧
    (∀ i rule, (rules.filter (admitsRule trigger b.store))[i]? = some rule → ∃ t,
      ((Plan.carryOut ⟨trigger, ds⟩ names now).run now b).2.store.get? .task
        ⟨trigger.metadata.ns, names i⟩ = some t ∧ TaskOf trigger body rule t) ∧
    (∀ key, (∀ i < (rules.filter (admitsRule trigger b.store)).length, key ≠ ⟨trigger.metadata.ns, names i⟩) →
      (((Plan.carryOut ⟨trigger, ds⟩ names now).run now b).2.store.get? .task key).map Task.unmarked =
        (b.store.get? .task key).map Task.unmarked) := by
  obtain ⟨made, failure, after, makes, tasks, outcome⟩ := carryOutMakes ⟨trigger, ds⟩ names now b
  have differ : (ds.map Draft.rule).Nodup := by
    rw [drafted.named]
    exact apart.map fun _ _ => Option.some.inj
  obtain ⟨all, stored⟩ := makes.chosen home (by rw [drafted.sameLength]; exact fresh) differ drafted.ruled
  have admitted := drafted.admitted b.store
  obtain ⟨rfl, rfl⟩ := Prod.mk.inj all
  have keys : (((ds.filter (·.isAdmitted trigger b.store)).mapIdx fun i d =>
        (⟨d.rule, ⟨trigger.metadata.ns, names (0 + i)⟩⟩ : Made)).map Made.task) =
      (List.range (rules.filter (admitsRule trigger b.store)).length).map
        fun i => ⟨trigger.metadata.ns, names i⟩ := by
    rw [← admitted.sameLength]
    exact List.ext_getElem (by simp) fun i _ _ => by simp
  refine ⟨?_, fun i rule found => ?_, fun key other => ?_⟩
  · have empty : ∀ f : Nat → Draft → Made, ((ds.filter (·.isAdmitted trigger b.store)).mapIdx f).isEmpty =
        (rules.filter (admitsRule trigger b.store)).isEmpty := by
      intro f
      rw [← admitted.isEmpty]
      cases ds.filter (·.isAdmitted trigger b.store) <;> simp
    rw [outcome]
    dsimp only
    rw [drafted.isEmpty, empty, keys]
  · obtain ⟨s, rendered, draft⟩ := admitted.draftAt found
    obtain ⟨version, there⟩ := stored i _ draft
    rw [Nat.zero_add] at there
    refine ⟨_, (Store.sameFound tasks _).trans there, ⟨rendered, fun label => ?_, rfl, rfl⟩⟩
    have labelled := newTaskLabels trigger
      ⟨some rule.name, trigger.spec.policyFor rule, rule.taskTemplate.labels, s⟩ (names i) label
    simp only [Option.isSome_some, and_true] at labelled
    exact labelled
  · rw [Store.sameFound tasks]
    refine makes.others ?_
    rw [keys]
    intro inside
    obtain ⟨i, below, same⟩ := List.mem_map.mp inside
    exact other i (List.mem_range.mp below) same.symm

def chosen (trigger : WebhookTrigger) (s : Store) (body headers : Json) : List WebhookRule :=
  (matched trigger body headers).filter (admitsRule trigger s)

def taskKey (trigger : WebhookTrigger) (names : Nat → String) (i : Nat) : Key :=
  ⟨trigger.metadata.ns, trigger.metadata.name ++ "-" ++ names i⟩

theorem namesFresh {s : Store} (fewer : n ≤ trigger.spec.rules.length)
    (free : ∀ i < trigger.spec.rules.length, s.get? .task (taskKey trigger names i) = none)
    (distinct : ∀ i j, i < j → j < trigger.spec.rules.length → names i ≠ names j) :
    Fresh trigger.metadata.ns (fun i => trigger.metadata.name ++ "-" ++ names i) s 0 n where
  named i _ _ empty := by
    have dash := (String.append_eq_empty_iff.mp (String.append_eq_empty_iff.mp empty).1).2
    exact absurd dash (by decide)
  free i _ below := free i (by omega)
  distinct i j _ less below same := distinct i j less (by omega) ((String.append_right_inj _).mp same)

/-- Each rule that a request is for makes one task, in rule order, unless its policy forbids
it for a task that was active before the request; what the other rules do is no matter. -/
theorem rulesActAlone {registry : Registry} {sources : SecretSources} {engine : FilterEngine}
    {request : WebhookRequest} {body : Json} (now : Instant) (served : registry.Sound)
    (sound : engine.Sound) (heard : Heard registry sources request trigger body) (ruled : trigger.spec.rules ≠ [])
    (filters : ∀ rule ∈ trigger.spec.rules, ∃ accepted,
      Filter.verdict rule.filter body (headersPayload request.headers) = .ok accepted)
    (templates : ∀ rule ∈ matched trigger body (headersPayload request.headers),
      ∃ s, rule.taskTemplate.render body = .ok s)
    (free : ∀ i < trigger.spec.rules.length, b.store.get? .task (taskKey trigger names i) = none)
    (distinct : ∀ i j, i < j → j < trigger.spec.rules.length → names i ≠ names j) :
    ((handle registry sources names now engine request).1.run now b).1.outcome = .ok (
      if (matched trigger body (headersPayload request.headers)).isEmpty then .filtered
      else if (chosen trigger b.store body (headersPayload request.headers)).isEmpty then .skipped
      else .created ((List.range (chosen trigger b.store body (headersPayload request.headers)).length).map
        (taskKey trigger names))) ∧
    (∀ i rule, (chosen trigger b.store body (headersPayload request.headers))[i]? = some rule →
      ∃ t, ((handle registry sources names now engine request).1.run now b).2.store.get? .task
        (taskKey trigger names i) = some t ∧ TaskOf trigger body rule t) ∧
    (∀ key, (∀ i < (chosen trigger b.store body (headersPayload request.headers)).length,
        key ≠ taskKey trigger names i) →
      (((handle registry sources names now engine request).1.run now b).2.store.get? .task key).map
        Task.unmarked = (b.store.get? .task key).map Task.unmarked) := by
  obtain ⟨ds, later, judged, drafted⟩ := heardJudged served sound heard ruled filters templates
  obtain ⟨key, path, found⟩ := heard.served
  have home : trigger.metadata.ns ≠ "" := by
    have own : trigger.key = key := served.keyed key trigger found
    rw [show trigger.metadata.ns = key.ns from congrArg Key.ns own]
    exact keyOfPathHome path
  have apart : ((matched trigger body (headersPayload request.headers)).map WebhookRule.name).Nodup :=
    (List.filter_sublist.map WebhookRule.name).nodup (TriggerSpec.rulesNamed (served.valid key trigger found))
  have handled : (handle registry sources names now engine request).1 =
      Plan.carryOut ⟨trigger, ds⟩ (fun i => trigger.metadata.name ++ "-" ++ names i) now := by
    unfold handle
    rw [judged]
  rw [handled]
  exact carryOutRules drafted home apart (namesFresh (List.length_filter_le _ _) free distinct)

def ruleNamed (name filter : String) (policy : Option ConcurrencyPolicy) : WebhookRule :=
  ⟨name, filter, policy, ⟨"", none, [], [], none, .empty⟩⟩

def threeRules : WebhookTrigger :=
  ⟨Metadata.ofKey ⟨"ns", "hook"⟩, ⟨none, "", .allow, none,
    [ruleNamed "first" "" (some .forbid), ruleNamed "second" "" none,
      ruleNamed "third" "body.tag == 'x'" none]⟩, .fresh⟩

def untagged : WebhookRequest := ⟨"ns/hook", .empty, Auth.bytesOf "\x7b\x7d"⟩

def untaggedBody : Json := (payload? untagged).getD .null

def firstBusy : Backend :=
  (Backend.empty.perform default (.create .task (newTask threeRules
    ⟨some "first", .allow, .empty, (Task.bare ⟨"ns", "task"⟩ "agent").spec⟩ "task"))).2

def threeServed : Registry := (Registry.empty.register threeRules).2

def tally (i : Nat) : String := String.ofList (List.replicate i 'i')

theorem tallyDistinct {i j : Nat} (less : i < j) : tally i ≠ tally j := by
  intro same
  have lengths := congrArg (·.toList.length) same
  simp only [tally, String.toList_ofList, List.length_replicate] at lengths
  omega

theorem okExists {ε α : Type} {result : Except ε α} (ok : result.isOk = true) : ∃ a, result = .ok a := by
  cases result with
  | ok a => exact ⟨a, rfl⟩
  | error e => cases ok

theorem untaggedHeard : Heard threeServed ⟨none, .empty⟩ untagged threeRules untaggedBody where
  served := ⟨⟨"ns", "hook"⟩, by decide +kernel, by decide +kernel⟩
  identified := rfl
  payload := by
    have parsed : (payload? untagged).isSome = true := by decide +kernel
    obtain ⟨body, same⟩ := Option.isSome_iff_exists.mp parsed
    rw [untaggedBody, same]
    rfl
  accepted := if_pos (by decide +kernel)

theorem secondActsAlone :
    (chosen threeRules firstBusy.store untaggedBody (headersPayload untagged.headers)).map (·.name) =
      ["second"] ∧
    ∃ t, ((handle threeServed ⟨none, .empty⟩ tally default .empty untagged).1.run default
      firstBusy).2.store.get? .task (taskKey threeRules tally 0) = some t ∧
      TaskOf threeRules untaggedBody (ruleNamed "second" "" none) t := by
  have filters : ∀ rule ∈ threeRules.spec.rules,
      (Filter.verdict rule.filter untaggedBody (headersPayload untagged.headers)).isOk = true := by
    decide +kernel
  have templates : ∀ rule ∈ threeRules.spec.rules,
      (rule.taskTemplate.render untaggedBody).isOk = true := by
    decide +kernel
  have free : ∀ i < threeRules.spec.rules.length,
      firstBusy.store.get? .task (taskKey threeRules tally i) = none := by
    decide +kernel
  have acts := rulesActAlone default (Registry.emptySound.register threeRules) FilterEngine.emptySound untaggedHeard
    (by decide) (fun rule listed => okExists (filters rule listed))
    (fun rule listed => okExists (templates rule (List.mem_filter.mp listed).1)) free
    (fun i j less _ => tallyDistinct less)
  exact ⟨by decide +kernel, acts.2.1 0 _ (by decide +kernel)⟩

end Turnstile.Webhook
