import Turnstile.Controller.Triggers
import Turnstile.Proofs.Changes
/-! The loop that serves the triggers, one call at a time. It takes their changes in order, and
between two of its calls anyone may write anything. What its jobs rest on holds when they come
to be done, unless a change is still to be taken. -/
namespace Turnstile
open TriggerController

namespace Registry
variable {r : Registry} {key other : Key} {found : Option WebhookTrigger}

def follow (r : Registry) (key : Key) : Option WebhookTrigger → Registry
  | none => (r.unregister key).2
  | some t => (r.register t).2

theorem registerValid {t : WebhookTrigger} (valid : t.spec.fault? = none) :
    r.register t = (.ok (), ⟨r.triggers.insert t.key t⟩) := by
  unfold register
  rw [valid]

theorem registerInvalid {t : WebhookTrigger} {e : TriggerSpecError} (fault : t.spec.fault? = some e) :
    r.register t = (.error e, ⟨r.triggers.erase t.key⟩) := by
  unfold register
  rw [fault]

theorem followOwn (own : ∀ t, found = some t → t.key = key) :
    (r.follow key found).get? key = found.filter (·.spec.isValid) := by
  cases found with
  | none => exact SortedMap.getEraseSame r.triggers key
  | some t =>
    cases own t rfl
    change (r.register t).2.get? t.key = if t.spec.isValid then some t else none
    unfold TriggerSpec.isValid
    cases fault : t.spec.fault? with
    | some e =>
      rw [registerInvalid fault]
      exact SortedMap.getEraseSame r.triggers t.key
    | none =>
      rw [registerValid fault]
      exact SortedMap.getInsertSame r.triggers t.key t

theorem followOther (own : ∀ t, found = some t → t.key = key) (apart : other ≠ key) :
    (r.follow key found).get? other = r.get? other := by
  cases found with
  | none => exact SortedMap.getEraseOther r.triggers apart
  | some t =>
    cases own t rfl
    change (r.register t).2.get? other = r.get? other
    cases fault : t.spec.fault? with
    | some e =>
      rw [registerInvalid fault]
      exact SortedMap.getEraseOther r.triggers apart
    | none =>
      rw [registerValid fault]
      exact SortedMap.getInsertOther r.triggers t apart

theorem memKeys : key ∈ r.keys ↔ (r.get? key).isSome = true :=
  SortedMap.memKeys

end Registry

inductive Job where
  | list
  | drop (key : Key)
  | read (key : Key)
  | follow (key : Key) (found : Option WebhookTrigger)
  | publish (rest : Procedure Unit)

def Job.Covers (key : Key) : Job → Prop
  | list => True
  | drop other | read other | follow other _ => other = key
  | publish _ => False

inductive Occasion where
  | start
  | trigger (notice : Notice .trigger)
  | task (notice : Notice .task)
  | tick

namespace Occasion

def jobs : Occasion → List Job
  | trigger (.event (.applied t)) => [.read t.key]
  | trigger (.event (.deleted t)) => [.drop t.key]
  | task (.event e) =>
    match owner? e.object with
    | some key => [.read key]
    | none => []
  | start | trigger .lagged | task .lagged | tick => [.list]

/-- Everything is looked up because changes were missed, at the start or for being late. -/
def CatchesUp : Occasion → Prop
  | start | trigger .lagged => True
  | _ => False

def Handles (key : Key) : Occasion → Prop
  | trigger (.event e) => e.key = key
  | _ => False

end Occasion

inductive Work where
  | waiting
  | doing (occasion : Occasion) (jobs : List Job)

namespace Work

def jobs : Work → List Job
  | waiting => []
  | doing _ jobs => jobs

def CatchesUp : Work → Prop
  | waiting => False
  | doing occasion _ => occasion.CatchesUp

def Handles (key : Key) : Work → Prop
  | waiting => False
  | doing occasion _ => occasion.Handles key

end Work

def TriggerController.publish (base : String) : Option WebhookTrigger → Procedure Unit
  | none => pure ()
  | some t =>
    match t.spec.fault? with
    | some _ => pure ()
    | none => do
      let _ ← syncStatus base t
      pure ()

structure Serving where
  backend : Backend
  registry : Registry
  triggersSeen : Nat
  tasksSeen : Nat
  work : Work

namespace Serving

def triggers (s : Serving) : Collection .trigger := s.backend.store.triggers

/-- What may happen next. Anyone may call at any time; the loop goes on with its first job. -/
inductive Step (base : String) : Serving → Serving → Prop where
  | written (s : Serving) (now : Instant) (call : Call) :
      Step base s { s with backend := (s.backend.perform now call).2 }
  | worked (s : Serving) (workloads : Workloads) :
      Step base s { s with backend := { s.backend with workloads } }
  | triggerNotice (s : Serving) {notice : Notice .trigger} {seen : Nat} (idle : s.work = .waiting)
      (found : s.triggers.notice? s.triggersSeen = some (notice, seen)) :
      Step base s { s with
        triggersSeen := seen
        work := .doing (.trigger notice) (Occasion.trigger notice).jobs }
  | taskNotice (s : Serving) {notice : Notice .task} {seen : Nat} (idle : s.work = .waiting)
      (found : s.backend.store.tasks.notice? s.tasksSeen = some (notice, seen)) :
      Step base s { s with tasksSeen := seen, work := .doing (.task notice) (Occasion.task notice).jobs }
  | ticked (s : Serving) (idle : s.work = .waiting) :
      Step base s { s with work := .doing .tick Occasion.tick.jobs }
  | listed (s : Serving) {occasion : Occasion} {rest : List Job} (stale : List Key)
      (turn : s.work = .doing occasion (.list :: rest))
      (dropped : ∀ key, key ∈ stale ↔ key ∈ s.registry.keys ∧
        key ∉ (s.backend.store.list .trigger .all).map WebhookTrigger.key) :
      Step base s { s with work := .doing occasion (stale.map .drop ++
        ((s.backend.store.list .trigger .all).map WebhookTrigger.key).map .read ++ rest) }
  | dropped (s : Serving) {occasion : Occasion} {key : Key} {rest : List Job}
      (turn : s.work = .doing occasion (.drop key :: rest)) :
      Step base s { s with registry := (s.registry.unregister key).2, work := .doing occasion rest }
  | read (s : Serving) {occasion : Occasion} {key : Key} {rest : List Job}
      (turn : s.work = .doing occasion (.read key :: rest)) :
      Step base s { s with
        work := .doing occasion (.follow key (s.backend.store.get? .trigger key) :: rest) }
  | followed (s : Serving) {occasion : Occasion} {key : Key} {found : Option WebhookTrigger}
      {rest : List Job} (turn : s.work = .doing occasion (.follow key found :: rest)) :
      Step base s { s with
        registry := s.registry.follow key found
        work := .doing occasion (.publish (publish base found) :: rest) }
  | asked (s : Serving) {occasion : Occasion} {call : Call} {next : call.Reply → Procedure Unit}
      {rest : List Job} (now : Instant)
      (turn : s.work = .doing occasion (.publish (.call call next) :: rest)) :
      Step base s { s with
        backend := (s.backend.perform now call).2
        work := .doing occasion (.publish (next (s.backend.perform now call).1) :: rest) }
  | published (s : Serving) {occasion : Occasion} {u : Unit} {rest : List Job}
      (turn : s.work = .doing occasion (.publish (.done u) :: rest)) :
      Step base s { s with work := .doing occasion rest }
  | rested (s : Serving) {occasion : Occasion} (turn : s.work = .doing occasion []) :
      Step base s { s with work := .waiting }

def opened (backend : Backend) (registry : Registry) : Serving where
  backend := backend
  registry := registry
  triggersSeen := backend.store.triggers.events.size
  tasksSeen := backend.store.tasks.events.size
  work := .doing .start Occasion.start.jobs

inductive Reachable (base : String) : Serving → Prop where
  | opened (backend : Backend) (registry : Registry) : Reachable base (opened backend registry)
  | step {s d : Serving} (past : Reachable base s) (next : Step base s d) : Reachable base d

def Unread (s : Serving) (key : Key) : Prop :=
  ∃ (i : Nat) (e : Event .trigger), s.triggersSeen ≤ i ∧ s.triggers.events[i]? = some e ∧ e.key = key

/-- A change under the key is still to be taken, or the loop is at it. -/
def Unhandled (s : Serving) (key : Key) : Prop := s.Unread key ∨ s.work.Handles key

def Exact (s : Serving) (key : Key) : Prop :=
  s.registry.get? key = (s.backend.store.get? .trigger key).filter (·.spec.isValid)

def Right (s : Serving) : Job → Prop
  | .drop key => s.backend.store.get? .trigger key = none ∨ s.Unread key
  | .follow key found => (∀ t, found = some t → t.key = key) ∧
      (s.backend.store.get? .trigger key = found ∨ s.Unread key)
  | .list | .read _ | .publish _ => True

structure Sound (s : Serving) : Prop where
  seen : s.triggersSeen ≤ s.triggers.events.size
  gone : ∀ i o, s.triggersSeen ≤ i → s.triggers.events[i]? = some (.deleted o) →
    s.backend.store.get? .trigger (WebhookTrigger.key o) = none ∨
      ∃ (j : Nat) (e : Event .trigger), i < j ∧ s.triggers.events[j]? = some e ∧
        e.key = WebhookTrigger.key o
  right : ∀ job ∈ s.work.jobs, s.Right job
  covered : ∀ key, s.Unread key ∨ (∃ job ∈ s.work.jobs, job.Covers key) ∨ s.Exact key
  exact : ¬ s.work.CatchesUp → ∀ key, s.Unhandled key ∨ s.Exact key

variable {base : String} {s d : Serving} {key : Key} {occasion : Occasion} {rest : List Job}

theorem Sound.written (h : Sound s) {backend : Backend}
    (entered : s.triggers.Entered backend.store.triggers) : Sound { s with backend } := by
  have grown := entered.follows
  have unread : ∀ key, s.Unread key → Unread { s with backend } key :=
    fun key ⟨i, e, later, event, own⟩ => ⟨i, e, later, grown.grows i e event, own⟩
  -- what is stored under a key is as it was, or its change is yet to be taken
  have told : ∀ key, backend.store.get? .trigger key = s.backend.store.get? .trigger key ∨
      Unread { s with backend } key := fun key =>
    (entered.told key).imp_right fun ⟨e, event, own⟩ => ⟨_, e, h.seen, event, own⟩
  have exact : ∀ key, s.Exact key → Unread { s with backend } key ∨ Exact { s with backend } key := by
    intro key before
    refine (told key).symm.imp_right fun same => ?_
    unfold Exact
    dsimp only
    rw [same]
    exact before
  refine ⟨Nat.le_trans h.seen grown.size, fun i o later event => ?_, fun job inside => ?_,
    fun key => ?_, fun up key => ?_⟩
  · rcases Nat.lt_or_ge i s.triggers.events.size with old | new
    · have before : s.triggers.events[i]? = some (.deleted o) := by
        have there := Array.getElem?_eq_getElem old
        have same := (grown.grows i _ there).symm.trans event
        rw [there, same]
      rcases h.gone i o later before with absent | ⟨j, e, after, there, own⟩
      · rcases entered.told (WebhookTrigger.key o) with same | ⟨e, there, own⟩
        · exact .inl (same.trans absent)
        · exact .inr ⟨_, e, old, there, own⟩
      · exact .inr ⟨j, e, after, grown.grows j e there, own⟩
    · exact .inl (entered.gone new event)
  · have before := h.right job inside
    cases job with
    | list | read | publish => trivial
    | drop key =>
      rcases before with absent | still
      · exact (told key).imp_left fun same => same.trans absent
      · exact .inr (unread key still)
    | follow key found =>
      refine ⟨before.1, ?_⟩
      rcases before.2 with stored | still
      · exact (told key).imp_left fun same => same.trans stored
      · exact .inr (unread key still)
  · rcases h.covered key with still | covers | before
    · exact .inl (unread key still)
    · exact .inr (.inl covers)
    · exact (exact key before).imp_right .inr
  · rcases h.exact up key with (still | handles) | before
    · exact .inl (.inl (unread key still))
    · exact .inl (.inr handles)
    · exact (exact key before).imp_left .inl

/-- A turn of the loop: what was served right stays so, and what the old jobs covered is
covered by the new ones or served right. -/
theorem Sound.turned (h : Sound s) {old jobs : List Job} {registry : Registry}
    (turn : s.work = .doing occasion old)
    (kept : ∀ key, s.Exact key → s.Unread key ∨ Exact { s with registry } key)
    (right : ∀ job ∈ jobs, s.Right job)
    (covers : ∀ key, (∃ job ∈ old, job.Covers key) →
      s.Unread key ∨ (∃ job ∈ jobs, job.Covers key) ∨ Exact { s with registry } key) :
    Sound { s with registry, work := .doing occasion jobs } where
  seen := h.seen
  gone := h.gone
  right := right
  covered key := by
    have before := h.covered key
    rw [turn] at before
    rcases before with still | covered | exact
    · exact .inl still
    · exact covers key covered
    · exact (kept key exact).imp_right .inr
  exact up key := by
    have before := h.exact
    unfold Unhandled at before
    rw [turn] at before
    rcases before up key with (still | handles) | exact
    · exact .inl (.inl still)
    · exact .inl (.inr handles)
    · exact (kept key exact).imp_left .inl

theorem Sound.followed (h : Sound s) {job : Job} {found : Option WebhookTrigger} {jobs : List Job}
    (turn : s.work = .doing occasion (job :: rest)) (own : ∀ t, found = some t → t.key = key)
    (current : s.backend.store.get? .trigger key = found ∨ s.Unread key)
    (only : ∀ other, job.Covers other → other = key) (later : rest ⊆ jobs) (right : ∀ job ∈ jobs, s.Right job) :
    Sound { s with registry := s.registry.follow key found, work := .doing occasion jobs } := by
  have now : s.Unread key ∨ Exact { s with registry := s.registry.follow key found } key :=
    current.symm.imp_right fun stored => by
      unfold Exact
      dsimp only
      rw [Registry.followOwn own, stored]
  refine h.turned turn (fun other exact => ?_) right fun other ⟨covering, inside, covers⟩ => ?_
  · by_cases same : other = key
    · exact same ▸ now
    · exact .inr ((Registry.followOther own same).trans exact)
  · rcases List.mem_cons.mp inside with rfl | inside
    · rw [only other covers]
      exact now.imp_right .inr
    · exact .inr (.inl ⟨covering, later inside, covers⟩)

theorem Sound.listed (h : Sound s) {stale : List Key} (turn : s.work = .doing occasion (.list :: rest))
    (dropped : ∀ key, key ∈ stale ↔ key ∈ s.registry.keys ∧
      key ∉ (s.backend.store.list .trigger .all).map WebhookTrigger.key) :
    Sound { s with work := .doing occasion (stale.map .drop ++
      ((s.backend.store.list .trigger .all).map WebhookTrigger.key).map .read ++ rest) } := by
  have stored : ∀ key, key ∈ (s.backend.store.list .trigger .all).map WebhookTrigger.key ↔
      (s.backend.store.get? .trigger key).isSome = true := by
    intro key
    rw [Store.listAll, Option.isSome_iff_exists, List.mem_map]
    constructor
    · rintro ⟨t, inside, rfl⟩
      obtain ⟨key, found⟩ := SortedMap.memValues.mp inside
      exact ⟨t, by rwa [show key = WebhookTrigger.key t from (s.triggers.keyed found).symm] at found⟩
    · rintro ⟨t, found⟩
      exact ⟨t, SortedMap.memValues.mpr ⟨key, found⟩, s.triggers.keyed found⟩
  have right := h.right
  rw [turn] at right
  refine h.turned turn (fun _ => .inr) (fun job inside => ?_) fun key ⟨covering, inside, covers⟩ => ?_
  · rcases List.mem_append.mp inside with new | later
    · rcases List.mem_append.mp new with drop | read
      · obtain ⟨key, there, rfl⟩ := List.mem_map.mp drop
        have absent := mt (stored key).mpr ((dropped key).mp there).2
        exact .inl (Option.not_isSome_iff_eq_none.mp absent)
      · obtain ⟨key, -, rfl⟩ := List.mem_map.mp read
        trivial
    · exact right job (List.mem_cons_of_mem _ later)
  · rcases List.mem_cons.mp inside with rfl | later
    · by_cases there : key ∈ (s.backend.store.list .trigger .all).map WebhookTrigger.key
      · refine .inr (.inl ⟨.read key, ?_, rfl⟩)
        exact List.mem_append_left _ (List.mem_append_right _ (List.mem_map_of_mem there))
      · by_cases served : key ∈ s.registry.keys
        · refine .inr (.inl ⟨.drop key, ?_, rfl⟩)
          have inside : key ∈ stale := (dropped key).mpr ⟨served, there⟩
          exact List.mem_append_left _ (List.mem_append_left _ (List.mem_map_of_mem inside))
        · have nothing := Option.not_isSome_iff_eq_none.mp (mt Registry.memKeys.mpr served)
          have absent := Option.not_isSome_iff_eq_none.mp (mt (stored key).mpr there)
          refine .inr (.inr ?_)
          unfold Exact
          dsimp only
          rw [nothing, absent]
          rfl
    · exact .inr (.inl ⟨covering, List.mem_append_right _ later, covers⟩)

theorem Sound.replaced (h : Sound s) {job : Job} (turn : s.work = .doing occasion (job :: rest)) (jobs : List Job)
    (right : ∀ new ∈ jobs, s.Right new) (covers : ∀ key, job.Covers key → ∃ new ∈ jobs, new.Covers key) :
    Sound { s with work := .doing occasion (jobs ++ rest) } := by
  have before := h.right
  rw [turn] at before
  refine h.turned turn (fun _ => .inr) (fun new inside => ?_) fun key ⟨covering, inside, own⟩ => .inr (.inl ?_)
  · rcases List.mem_append.mp inside with first | later
    · exact right new first
    · exact before new (List.mem_cons_of_mem _ later)
  · rcases List.mem_cons.mp inside with rfl | later
    · obtain ⟨new, first, own⟩ := covers key own
      exact ⟨new, List.mem_append_left _ first, own⟩
    · exact ⟨covering, List.mem_append_right _ later, own⟩

theorem Sound.idle (h : Sound s) (none : s.work.jobs = []) (key : Key) : s.Unread key ∨ s.Exact key := by
  have before := h.covered key
  rw [none] at before
  exact before.imp_right fun either => either.resolve_left fun ⟨_, inside, _⟩ => nomatch inside

theorem Sound.begun (h : Sound s) (idle : s.work = .waiting) (seen : Nat) {jobs : List Job}
    (right : ∀ job ∈ jobs, s.Right job) :
    Sound { s with tasksSeen := seen, work := .doing occasion jobs } := by
  have exact := h.idle (congrArg Work.jobs idle)
  exact ⟨h.seen, h.gone, right, fun key => (exact key).imp_right .inr, fun _ key => (exact key).imp_left .inl⟩

theorem Sound.noticed (h : Sound s) (idle : s.work = .waiting) {notice : Notice .trigger} {seen : Nat}
    (found : s.triggers.notice? s.triggersSeen = some (notice, seen)) :
    Sound { s with triggersSeen := seen, work := .doing (.trigger notice) (Occasion.trigger notice).jobs } := by
  have waited := h.idle (congrArg Work.jobs idle)
  unfold Collection.notice? at found
  split at found
  · rename_i late
    obtain ⟨lost, place⟩ := Prod.mk.inj (Option.some.inj found)
    have later : s.triggersSeen ≤ seen := by omega
    have within : seen ≤ s.triggers.events.size := by omega
    subst lost
    -- what was missed is made good by looking everything up
    refine ⟨within, fun i o at_ => h.gone i o (Nat.le_trans later at_), fun job inside => ?_,
      fun key => .inr (.inl ⟨.list, List.mem_singleton.mpr rfl, trivial⟩), fun up => (up trivial).elim⟩
    rw [List.mem_singleton.mp inside]
    trivial
  · obtain ⟨e, event, same⟩ := Option.map_eq_some_iff.mp found
    cases same
    obtain ⟨within, -⟩ := Array.getElem?_eq_some_iff.mp event
    have past : ∀ key, s.Unread key → key = e.key ∨ Unread { s with
        triggersSeen := s.triggersSeen + 1
        work := .doing (.trigger (.event e)) (Occasion.trigger (.event e)).jobs } key := by
      rintro key ⟨i, other, later, there, rfl⟩
      rcases Nat.eq_or_lt_of_le later with rfl | after
      · cases event.symm.trans there
        exact .inl rfl
      · exact .inr ⟨i, other, after, there, rfl⟩
    have covers : ∃ job ∈ (Occasion.trigger (.event e)).jobs, job.Covers e.key := by
      cases e with
      | applied t => exact ⟨.read t.key, List.mem_singleton.mpr rfl, rfl⟩
      | deleted t => exact ⟨.drop t.key, List.mem_singleton.mpr rfl, rfl⟩
    refine ⟨within, fun i o at_ => h.gone i o (Nat.le_of_succ_le at_), fun job inside => ?_,
      fun key => ?_, fun up key => ?_⟩
    · cases e with
      | applied t =>
        rw [List.mem_singleton.mp inside]
        trivial
      | deleted t =>
        rw [List.mem_singleton.mp inside]
        exact h.gone _ t (Nat.le_refl _) event
    · rcases waited key with unread | exact
      · rcases past key unread with rfl | still
        · exact .inr (.inl covers)
        · exact .inl still
      · exact .inr (.inr exact)
    · rcases waited key with unread | exact
      · rcases past key unread with rfl | still
        · exact .inl (.inr rfl)
        · exact .inl (.inl still)
      · exact .inr exact

theorem openedSound (backend : Backend) (registry : Registry) : Sound (opened backend registry) := by
  refine ⟨Nat.le_refl _, fun i o later event => ?_, fun job inside => ?_,
    fun key => .inr (.inl ⟨.list, List.mem_singleton.mpr rfl, trivial⟩), fun up => (up trivial).elim⟩
  · have beyond : (opened backend registry).triggers.events[i]? = none := Array.getElem?_eq_none later
    cases beyond.symm.trans event
  · rw [List.mem_singleton.mp inside]
    trivial

theorem Sound.step (h : Sound s) (next : Step base s d) : Sound d := by
  cases next with
  | written now call => exact h.written (s.backend.performEntered now call .trigger)
  | worked workloads => exact h.written .same
  | triggerNotice idle found => exact h.noticed idle found
  | @taskNotice notice seen idle found =>
    refine h.begun idle seen fun job inside => ?_
    cases notice with
    | lagged =>
      rw [List.mem_singleton.mp inside]
      trivial
    | event e =>
      dsimp only [Occasion.jobs] at inside
      split at inside
      · rw [List.mem_singleton.mp inside]
        trivial
      · cases inside
  | ticked idle =>
    refine h.begun idle s.tasksSeen fun job inside => ?_
    rw [List.mem_singleton.mp inside]
    trivial
  | listed stale turn dropped => exact h.listed turn dropped
  | @dropped occasion key rest turn =>
    have right := h.right
    rw [turn] at right
    have absent : s.backend.store.get? .trigger key = none ∨ s.Unread key := right _ List.mem_cons_self
    have after : Sound { s with registry := s.registry.follow key none, work := .doing occasion rest } :=
      h.followed turn (fun _ none => nomatch none) absent (fun _ own => own.symm) (fun _ => id)
        fun job inside => right job (List.mem_cons_of_mem _ inside)
    exact after
  | @read occasion key rest turn =>
    refine h.replaced turn [.follow key (s.backend.store.get? .trigger key)] (fun new inside => ?_)
      fun other own => ⟨_, List.mem_singleton.mpr rfl, own⟩
    rw [List.mem_singleton.mp inside]
    exact ⟨fun t => s.triggers.keyed, .inl rfl⟩
  | @followed occasion key found rest turn =>
    have right := h.right
    rw [turn] at right
    obtain ⟨own, current⟩ := right _ List.mem_cons_self
    refine h.followed turn own current (fun _ => Eq.symm) (List.subset_cons_self _ _) fun job inside => ?_
    rcases List.mem_cons.mp inside with rfl | later
    · trivial
    · exact right job (List.mem_cons_of_mem _ later)
  | @asked occasion call next rest now turn =>
    have after := h.written (s.backend.performEntered now call .trigger)
    refine after.replaced turn [.publish (next (s.backend.perform now call).1)] (fun new inside => ?_)
      fun key own => own.elim
    rw [List.mem_singleton.mp inside]
    trivial
  | published turn =>
    exact h.replaced turn [] (fun _ inside => (List.not_mem_nil inside).elim) fun key own => own.elim
  | rested turn =>
    have exact := h.idle (congrArg Work.jobs turn)
    refine ⟨h.seen, h.gone, fun job inside => ?_, fun key => (exact key).imp_right .inr,
      fun _ key => (exact key).imp_left .inl⟩
    cases inside

theorem Reachable.sound (past : Reachable base s) : Sound s := by
  induction past with
  | opened backend registry => exact openedSound backend registry
  | step _ next ih => exact ih.step next

end Serving
end Turnstile
