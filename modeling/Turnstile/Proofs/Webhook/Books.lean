import Mathlib.Data.List.Nodup
import Turnstile.Proofs.Attempt
import Turnstile.Proofs.Webhook.Writes
/-! The books of a trigger. Its status counts the tasks made for it, and for each of its rules, and
names those that may still be active. Counting adds names and a sync takes away those of tasks
that have ended, so no name is there twice. -/
namespace Turnstile

namespace TriggerStatus
variable {name other : String} {f : RuleStatus → RuleStatus}

def ruleStatus (s : TriggerStatus) (name : String) : RuleStatus :=
  (s.ruleStatuses.find? (·.name == name)).getD ⟨name, none, 0, []⟩

def ruleNames (s : TriggerStatus) : List String := s.ruleStatuses.map RuleStatus.name

theorem ruleStatusListed {s : TriggerStatus} (distinct : s.ruleNames.Nodup) {r : RuleStatus}
    (listed : r ∈ s.ruleStatuses) : s.ruleStatus r.name = r := by
  unfold ruleStatus
  cases found : s.ruleStatuses.find? (·.name == r.name) with
  | none => exact absurd (List.find?_eq_none.mp found r listed) (by simp)
  | some twin =>
    have same : twin.name = r.name := by simpa using List.find?_some found
    exact List.inj_on_of_nodup_map distinct (List.mem_of_find?_eq_some found) listed same

theorem updateInNames (keeps : ∀ r, (f r).name = r.name) (name : String) (rs : List RuleStatus) :
    (updateIn name f rs).map RuleStatus.name =
      if name ∈ rs.map RuleStatus.name then rs.map RuleStatus.name
      else rs.map RuleStatus.name ++ [name] := by
  induction rs with
  | nil => simp [updateIn, keeps]
  | cons r rest ih =>
    unfold updateIn
    by_cases same : r.name = name
    · simp [same, keeps]
    · have other : name ≠ r.name := fun twin => same twin.symm
      simp only [beq_iff_eq, same, if_false, List.map_cons, ih, List.mem_cons, other, false_or]
      split <;> simp

theorem updateInFound (keeps : ∀ r, (f r).name = r.name) (name other : String) (rs : List RuleStatus) :
    ((updateIn name f rs).find? (·.name == other)).getD ⟨other, none, 0, []⟩ =
      if other = name then f ((rs.find? (·.name == name)).getD ⟨name, none, 0, []⟩)
      else (rs.find? (·.name == other)).getD ⟨other, none, 0, []⟩ := by
  induction rs with
  | nil =>
    by_cases same : other = name
    · simp [updateIn, keeps, same]
    · have apart : name ≠ other := fun twin => same twin.symm
      simp [updateIn, keeps, same, apart]
  | cons r rest ih =>
    unfold updateIn
    by_cases own : r.name = name
    · by_cases same : other = name
      · simp [own, same, keeps]
      · have apart : name ≠ other := fun twin => same twin.symm
        simp [own, same, apart, keeps]
    · by_cases first : r.name = other
      · have apart : other ≠ name := fun twin => own (first.trans twin)
        simp [first, apart]
      · by_cases same : other = name
        · simp only [same, if_true] at ih
          simp [own, same, ih]
        · simp only [same, if_false] at ih
          simp [own, first, same, ih]

section
variable (s : TriggerStatus)

theorem updateRuleNames (keeps : ∀ r, (f r).name = r.name) :
    (s.updateRule name f).ruleNames =
      if name ∈ s.ruleNames then s.ruleNames else s.ruleNames ++ [name] :=
  updateInNames keeps name s.ruleStatuses

theorem updateRuleStatus (keeps : ∀ r, (f r).name = r.name) :
    (s.updateRule name f).ruleStatus other =
      if other = name then f (s.ruleStatus name) else s.ruleStatus other :=
  updateInFound keeps name other s.ruleStatuses

end
end TriggerStatus

namespace Webhook
variable {made : List Made} {s : TriggerStatus} {m : Made} {now : Instant} {names : List String}
  {name other : String}

theorem memAppend : other ∈ append names name ↔ other ∈ names ∨ other = name := by
  unfold append
  split
  · rename_i there
    have listed : name ∈ names := by simpa using there
    exact ⟨.inl, fun either => either.elim id fun same => same ▸ listed⟩
  · simp

theorem appendNodup (distinct : names.Nodup) : (append names name).Nodup := by
  unfold append
  split
  · exact distinct
  · rename_i absent
    have fresh : name ∉ names := by simpa using absent
    exact List.nodup_append.mpr ⟨distinct, List.nodup_singleton _, fun a inside b single => by
      rw [List.mem_singleton.mp single]
      exact fun same => fresh (same ▸ inside)⟩

def counted (now : Instant) (task : String) (r : RuleStatus) : RuleStatus := { r with
  lastTriggeredTime := some now
  totalTriggered := r.totalTriggered + 1
  activeResources := append r.activeResources task }

theorem countMadeTasks : (countMade now s m).activeTasks = append s.activeTasks m.task.name := by
  unfold countMade
  cases m.rule <;> rfl

theorem countMadeTotal : (countMade now s m).totalTriggered = s.totalTriggered := by
  unfold countMade
  cases m.rule <;> rfl

theorem countMadeRule (name : String) : (countMade now s m).ruleStatus name =
    if m.rule = some name then counted now m.task.name (s.ruleStatus name) else s.ruleStatus name := by
  cases own : m.rule with
  | none => simp [countMade, own, TriggerStatus.ruleStatus]
  | some rule =>
    have shape : countMade now s m =
        { s with activeTasks := append s.activeTasks m.task.name }.updateRule rule
          (counted now m.task.name) := by
      unfold countMade
      rw [own]
      rfl
    rw [shape, TriggerStatus.updateRuleStatus (f := counted now m.task.name) _ fun _ => rfl]
    by_cases same : name = rule
    · subst same
      simp [TriggerStatus.ruleStatus]
    · have apart : rule ≠ name := fun twin => same twin.symm
      simp [same, apart, TriggerStatus.ruleStatus]

theorem countMadeNames : (countMade now s m).ruleNames =
    match m.rule with
    | none => s.ruleNames
    | some rule => if rule ∈ s.ruleNames then s.ruleNames else s.ruleNames ++ [rule] := by
  unfold countMade
  cases m.rule with
  | none => rfl
  | some rule => exact TriggerStatus.updateRuleNames _ fun _ => rfl

structure Booked (made : List Made) (s : TriggerStatus) : Prop where
  names : s.ruleNames.Nodup
  counts : ∀ name, (s.ruleStatus name).totalTriggered =
    UInt64.ofNat (made.countP fun m => m.rule == some name)
  entered : ∀ m ∈ made, ∀ name, m.rule = some name → name ∈ s.ruleNames
  tasks : s.activeTasks.Nodup
  resources : ∀ name, (s.ruleStatus name).activeResources.Nodup
  known : ∀ name, ∀ task ∈ (s.ruleStatus name).activeResources,
    ∃ m ∈ made, m.rule = some name ∧ m.task.name = task

def Named (s : TriggerStatus) (m : Made) : Prop :=
  m.task.name ∈ s.activeTasks ∧
    ∀ name, m.rule = some name → m.task.name ∈ (s.ruleStatus name).activeResources

theorem freshBooked : Booked [] TriggerStatus.fresh where
  names := List.nodup_nil
  counts _ := rfl
  entered _ inside := nomatch inside
  tasks := List.nodup_nil
  resources _ := List.nodup_nil
  known _ _ inside := nomatch inside

theorem Booked.perm {other : List Made} (booked : Booked made s) (same : made.Perm other) : Booked other s where
  names := booked.names
  counts name := by rw [booked.counts, same.countP_eq]
  entered m inside := booked.entered m (same.mem_iff.mpr inside)
  tasks := booked.tasks
  resources := booked.resources
  known name task inside := by
    obtain ⟨m, there, rest⟩ := booked.known name task inside
    exact ⟨m, same.mem_iff.mp there, rest⟩

theorem Booked.one (booked : Booked made s) (now : Instant) (m : Made) :
    Booked (made ++ [m]) (countMade now s m) where
  names := by
    rw [countMadeNames]
    cases m.rule with
    | none => exact booked.names
    | some rule =>
      dsimp only
      split
      · exact booked.names
      · rename_i absent
        refine List.nodup_append.mpr ⟨booked.names, List.nodup_singleton _, fun a inside b single => ?_⟩
        rw [List.mem_singleton.mp single]
        exact fun same => absent (same ▸ inside)
  counts name := by
    rw [countMadeRule, List.countP_append, List.countP_singleton]
    by_cases own : m.rule = some name
    · simp [own, counted, booked.counts, UInt64.ofNat_add]
    · simp [own, booked.counts]
  entered u inside name rule := by
    rw [countMadeNames]
    have grown : ∀ name, name ∈ s.ruleNames ∨ m.rule = some name → name ∈ (match m.rule with
        | none => s.ruleNames
        | some rule => if rule ∈ s.ruleNames then s.ruleNames else s.ruleNames ++ [rule]) := by
      intro name either
      cases own : m.rule with
      | none => exact either.resolve_right fun same => nomatch own.symm.trans same
      | some rule =>
        dsimp only
        rcases either with before | same
        · split
          · exact before
          · exact List.mem_append_left _ before
        · cases own.symm.trans same
          split
          · assumption
          · simp
    rcases List.mem_append.mp inside with before | last
    · exact grown name (.inl (booked.entered u before name rule))
    · exact grown name (.inr (List.mem_singleton.mp last ▸ rule))
  tasks := by
    rw [countMadeTasks]
    exact appendNodup booked.tasks
  resources name := by
    rw [countMadeRule]
    split
    · exact appendNodup (booked.resources name)
    · exact booked.resources name
  known name task inside := by
    rw [countMadeRule] at inside
    have before : task ∈ (s.ruleStatus name).activeResources →
        ∃ u ∈ made ++ [m], u.rule = some name ∧ u.task.name = task := by
      intro there
      obtain ⟨u, listed, rest⟩ := booked.known name task there
      exact ⟨u, List.mem_append_left _ listed, rest⟩
    split at inside
    · rename_i own
      rcases memAppend.mp inside with there | rfl
      · exact before there
      · exact ⟨m, by simp, own, rfl⟩
    · exact before inside

theorem Named.kept (named : Named s m) (u : Made) : Named (countMade now s u) m := by
  refine ⟨?_, fun name rule => ?_⟩
  · rw [countMadeTasks]
    exact memAppend.mpr (.inl named.1)
  · rw [countMadeRule]
    split
    · exact memAppend.mpr (.inl (named.2 name rule))
    · exact named.2 name rule

theorem namedCounted (now : Instant) (s : TriggerStatus) (m : Made) : Named (countMade now s m) m := by
  refine ⟨?_, fun name rule => ?_⟩
  · rw [countMadeTasks]
    exact memAppend.mpr (.inr rfl)
  · rw [countMadeRule, if_pos rule]
    exact memAppend.mpr (.inr rfl)

theorem foldBooked (booked : Booked made s) (now : Instant) (more : List Made) :
    Booked (made ++ more) (more.foldl (countMade now) s) := by
  induction more generalizing made s with
  | nil => simpa using booked
  | cons m rest ih =>
    have first := ih (booked.one now m)
    rwa [List.append_assoc] at first

theorem foldTotal (now : Instant) (more : List Made) (s : TriggerStatus) :
    (more.foldl (countMade now) s).totalTriggered = s.totalTriggered := by
  induction more generalizing s with
  | nil => rfl
  | cons m rest ih => exact (ih _).trans countMadeTotal

theorem foldNamed (now : Instant) (more : List Made) {s : TriggerStatus} {m : Made}
    (named : Named s m ∨ m ∈ more) : Named (more.foldl (countMade now) s) m := by
  induction more generalizing s with
  | nil => exact named.resolve_right List.not_mem_nil
  | cons u rest ih =>
    refine ih ?_
    rcases named with before | inside
    · exact .inl (before.kept u)
    · rcases List.mem_cons.mp inside with rfl | later
      · exact .inl (namedCounted now s m)
      · exact .inr later

theorem Booked.all (booked : Booked made s) (now : Instant) (more : List Made) :
    Booked (made ++ more) (countAll now more s) := by
  refine foldBooked ?_ now more
  exact ⟨booked.names, booked.counts, booked.entered, booked.tasks, booked.resources, booked.known⟩

theorem countAllTotal (now : Instant) (more : List Made) (s : TriggerStatus) :
    (countAll now more s).totalTriggered = s.totalTriggered + UInt64.ofNat more.length :=
  foldTotal now more _

theorem countAllNamed (now : Instant) (more : List Made) (named : Named s m ∨ m ∈ more) :
    Named (countAll now more s) m :=
  foldNamed now more named

end Webhook

namespace TriggerController
open Webhook
variable {made : List Made} {s : TriggerStatus} {m : Made} {active : List String}

theorem desiredRule (s : TriggerStatus) (url : String) (active : List String) (name : String) :
    (desiredStatus s url active).ruleStatus name =
      { s.ruleStatus name with
        activeResources := (s.ruleStatus name).activeResources.filter active.contains } := by
  unfold desiredStatus TriggerStatus.ruleStatus
  dsimp only
  rw [List.find?_map]
  have same : ((fun r : RuleStatus => r.name == name) ∘ fun r : RuleStatus =>
      { r with activeResources := r.activeResources.filter active.contains }) = (·.name == name) := rfl
  rw [same]
  cases s.ruleStatuses.find? (·.name == name) <;> rfl

theorem desiredNames (s : TriggerStatus) (url : String) (active : List String) :
    (desiredStatus s url active).ruleNames = s.ruleNames := by
  unfold desiredStatus TriggerStatus.ruleNames
  rw [List.map_map]
  rfl

theorem desiredBooked (booked : Booked made s) (url : String) (active : List String) :
    Booked made (desiredStatus s url active) where
  names := by
    rw [desiredNames]
    exact booked.names
  counts name := by
    rw [desiredRule]
    exact booked.counts name
  entered m inside name rule := by
    rw [desiredNames]
    exact booked.entered m inside name rule
  tasks := booked.tasks.filter _
  resources name := by
    rw [desiredRule]
    exact (booked.resources name).filter _
  known name task inside := by
    rw [desiredRule] at inside
    exact booked.known name task (List.mem_filter.mp inside).1

theorem desiredNamed (named : Named s m) (url : String) (alive : m.task.name ∈ active) :
    Named (desiredStatus s url active) m := by
  have kept : active.contains m.task.name = true := by simpa using alive
  refine ⟨List.mem_filter.mpr ⟨named.1, kept⟩, fun name rule => ?_⟩
  rw [desiredRule]
  exact List.mem_filter.mpr ⟨named.2 name rule, kept⟩

theorem desiredActive (s : TriggerStatus) (url : String) (active : List String) :
    (∀ task ∈ (desiredStatus s url active).activeTasks, task ∈ active) ∧
      ∀ name, ∀ task ∈ ((desiredStatus s url active).ruleStatus name).activeResources, task ∈ active := by
  refine ⟨fun task inside => by simpa using (List.mem_filter.mp inside).2, fun name task inside => ?_⟩
  rw [desiredRule] at inside
  simpa using (List.mem_filter.mp inside).2

end TriggerController

structure Backend.Rebooked (key : Key) (change : TriggerStatus → TriggerStatus) (b after : Backend) : Prop where
  tasks : after.store.tasks = b.store.tasks
  others : ∀ other, other ≠ key → after.store.get? .trigger other = b.store.get? .trigger other
  own : ∀ t, b.store.get? .trigger key = some t →
    ∃ u, after.store.get? .trigger key = some u ∧ u.spec = t.spec ∧ u.status = change t.status

namespace Backend
variable {b : Backend} {key : Key} {t : WebhookTrigger}

theorem rebookedAbsent {change : TriggerStatus → TriggerStatus} (absent : b.store.get? .trigger key = none) :
    b.Rebooked key change b where
  tasks := rfl
  others _ _ := rfl
  own _ found := nomatch absent.symm.trans found

theorem restated (now : Instant) (change : TriggerStatus → TriggerStatus)
    (stored : b.store.get? .trigger key = some t) :
    (∃ u, (b.perform now (.updateStatus .trigger { t with status := change t.status })).1 = .ok u) ∧
      b.Rebooked key change (b.perform now (.updateStatus .trigger { t with status := change t.status })).2 := by
  have own : t.key = key := b.store.triggers.keyed stored
  subst own
  have written := Collection.replaceAgreed (c := b.store.triggers)
    (o := { t with status := change t.status }) (b.store.version + 1) 0 Kind.trigger.takeStatus stored (.inr rfl)
  have put : (b.perform now (.updateStatus .trigger { t with status := change t.status })).2.store.triggers =
    b.store.triggers.put _ := congrArg Prod.snd written
  refine ⟨⟨_, congrArg Prod.fst written⟩, ⟨rfl, fun other apart => ?_, fun old found => ?_⟩⟩
  · exact (congrArg (fun c => c.objects.get? other) put).trans (Collection.putOther _ apart)
  · cases stored.symm.trans found
    refine ⟨_, (congrArg (fun c => c.objects.get? t.key) put).trans (Collection.putSame _ _), ?_, ?_⟩ <;> rfl

end Backend

namespace Webhook
open Procedure
variable {now : Instant} {b after : Backend} {key : Key} {made : List Made}

theorem recordRebooks {attempts : Nat} {u : Unit}
    (attempt : Attempt Call.OfTasks now (record now key made (attempts + 1)) b u after) :
    b.Rebooked key (countAll now made) after := by
  unfold record at attempt
  obtain ⟨found, middle, read, rest⟩ := attempt.bind
  rcases read.ask with ⟨answered, still⟩ | ⟨never, -⟩
  · replace answered : found = .ok (b.store.get? .trigger key) := answered
    replace still : middle = b := still
    rw [answered, still] at rest
    cases stored : b.store.get? .trigger key with
    | none =>
      rw [stored] at rest
      cases rest
      exact Backend.rebookedAbsent stored
    | some t =>
      rw [stored] at rest
      obtain ⟨written, last, wrote, rest⟩ := rest.bind
      obtain ⟨⟨o, reply⟩, rebooked⟩ := Backend.restated now (countAll now made) stored
      rcases wrote.ask with ⟨rfl, rfl⟩ | ⟨never, -⟩
      · rw [reply] at rest
        cases rest
        exact rebooked
      · exact never.elim
  · exact never.elim

end Webhook

namespace TriggerController
open Webhook Procedure
variable {now : Instant} {b : Backend} {key : Key} {registry : Registry}

theorem syncStatusRebooks (base : String) (now : Instant) {t : WebhookTrigger}
    (stored : b.store.get? .trigger key = some t) :
    b.Rebooked key (desiredStatus · (url base key)
        (activeNames (b.store.list .task (scope key.ns key.name none))))
      ((syncStatus base t).run now b).2 := by
  have own : t.key = key := b.store.triggers.keyed stored
  subst own
  have listed : (Procedure.ask (.list .task (scope t.key.ns t.key.name none))).runWith
      (Backend.perform now) b = (.ok (b.store.list .task (scope t.key.ns t.key.name none)), b) := rfl
  unfold syncStatus
  rw [Procedure.run, Procedure.runBind, listed]
  dsimp only
  split
  · rename_i same
    refine ⟨rfl, fun _ _ => rfl, fun old found => ?_⟩
    cases stored.symm.trans found
    exact ⟨t, found, rfl, same.symm⟩
  · obtain ⟨⟨o, reply⟩, rebooked⟩ := Backend.restated now (desiredStatus · (url base t.key)
      (activeNames (b.store.list .task (scope t.key.ns t.key.name none)))) stored
    rw [Procedure.runBind]
    have asked : ∀ c : Call, (Procedure.ask c).runWith (Backend.perform now) b = b.perform now c := fun _ => rfl
    rw [asked, reply]
    exact rebooked

theorem syncRebooks (base : String) (registry : Registry) (now : Instant)
    (valid : ∀ t, b.store.get? .trigger key = some t → t.spec.fault? = none) :
    b.Rebooked key (desiredStatus · (url base key)
        (activeNames (b.store.list .task (scope key.ns key.name none))))
      ((sync base registry key).run now b).2 := by
  have read : (Procedure.ask (.get .trigger key)).runWith (Backend.perform now) b =
      (.ok (b.store.get? .trigger key), b) := rfl
  unfold sync
  rw [Procedure.run, Procedure.runBind, read]
  cases stored : b.store.get? .trigger key with
  | none => exact Backend.rebookedAbsent stored
  | some t =>
    have registered : registry.register t = (.ok (), ⟨registry.triggers.insert t.key t⟩) := by
      unfold Registry.register
      rw [valid t stored]
    dsimp only
    rw [registered]
    dsimp only
    rw [Procedure.runBind]
    exact syncStatusRebooks base now stored

theorem syncSpares (base : String) (registry : Registry) (now : Instant) {other : Key} (apart : other ≠ key) :
    ((sync base registry key).run now b).2.store.get? .trigger other = b.store.get? .trigger other := by
  have read : (Procedure.ask (.get .trigger key)).runWith (Backend.perform now) b =
      (.ok (b.store.get? .trigger key), b) := rfl
  unfold sync
  rw [Procedure.run, Procedure.runBind, read]
  cases stored : b.store.get? .trigger key with
  | none => rfl
  | some t =>
    dsimp only
    split
    · rfl
    · rw [Procedure.runBind]
      exact (syncStatusRebooks base now stored).others other apart

end TriggerController
end Turnstile
