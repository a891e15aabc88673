import Turnstile.Manifest.Apply
import Turnstile.Proofs.Store.Copies
import Turnstile.Proofs.Store.Keeping
/-! Manifests brought into a store one after the other. The turn of each puts one object under its
own key, or fails and changes none; what stands under a key in the end is read off the manifests
that name it. -/
namespace Turnstile

theorem Collection.createVacant {k : Kind} {c : Collection k} {o : k.Object} (version : UInt64) (now : Instant)
    (vacant : c.objects.get? (k.key o) = none) :
    (((k.key o).ns = "" ∨ (k.key o).name = "") ∧
      c.create version now o = (.error (.invalid (k.text ++ " requires a namespace and a name")), c)) ∨
    c.create version now o = (.ok (firstWrite version now o), c.put (firstWrite version now o)) := by
  have free : c.objects.contains (k.metadata o).key = false := by
    change (c.objects.get? (k.key o)).isSome = false
    rw [vacant]
    rfl
  dsimp only [create]
  rw [free]
  by_cases nameless : ((k.metadata o).name.isEmpty || (k.metadata o).ns.isEmpty) = true
  · rw [if_pos nameless]
    rw [Bool.or_eq_true, String.isEmpty_iff, String.isEmpty_iff] at nameless
    exact .inl ⟨nameless.symm, rfl⟩
  · rw [if_neg nameless]
    exact .inr rfl

namespace Store
variable {s : Store} {k : Kind} {o : k.Object} {r : Except StoreError k.Object}
  {f : UInt64 → Collection k → Except StoreError k.Object × Collection k}

theorem writeIdle (refused : f (s.version + 1) (s.collection k) = (r, s.collection k)) :
    (s.write k f).1 = r ∧ s.Idle (s.write k f).2 := by
  refine ⟨congrArg Prod.fst refused, fun j => ?_⟩
  refine (sameCollection ?_ j).trans (numberedCollection s _ j)
  exact (congrArg Prod.snd refused).trans (numberedCollection s _ k).symm

theorem writePuts (done : f (s.version + 1) (s.collection k) = (r, (s.collection k).put o)) :
    (s.write k f).1 = r ∧ s.Puts k o (s.write k f).2 := by
  refine ⟨congrArg Prod.fst done, (collectionSame _ _ _).trans (congrArg Prod.snd done), fun j other => ?_⟩
  exact (collectionOther _ _ other).trans (numberedCollection s _ j)

namespace Puts
variable {before after : Store}

theorem same (puts : before.Puts k o after) : after.get? k (k.key o) = some o := by
  unfold get?
  rw [puts.own]
  exact Collection.putSame _ _

theorem elsewhere (puts : before.Puts k o after) {j : Kind} {key : Key} (other : j = k → key ≠ k.key o) :
    after.get? j key = before.get? j key := by
  unfold get?
  by_cases own : j = k
  · subst own
    rw [puts.own]
    exact Collection.putOther _ (other rfl)
  · rw [puts.others j own]

end Puts
end Store

namespace Kind
variable {k : Kind}

theorem parts {o other : k.Object} (metadata : k.metadata o = k.metadata other) (spec : k.spec o = k.spec other)
    (status : k.status o = k.status other) : o = other := by
  cases k <;> cases o <;> cases other <;> cases metadata <;> cases spec <;> cases status <;> rfl

def uncounted (k : Kind) (o : k.Object) : k.Object :=
  k.withMetadata o { k.metadata o with resourceVersion := 0, generation := 0 }

def laid (version : UInt64) (now : Instant) (incoming : k.Object) : Option k.Object → k.Object
  | none => Collection.firstWrite version now incoming
  | some stored => Collection.laterWrite version 1 stored (k.keepStatus stored (Manifest.replacing k stored incoming))

theorem laidKey (version : UInt64) (now : Instant) (incoming : k.Object) (old : Option k.Object) :
    k.key (laid version now incoming old) = k.key incoming := by
  cases old <;>
    simp [laid, key, Collection.firstWrite, Collection.laterWrite, Manifest.replacing, Metadata.key]

theorem laidVersion (version : UInt64) (now : Instant) (incoming : k.Object) (old : Option k.Object) :
    k.version (laid version now incoming old) = version := by
  cases old <;> simp [laid, Kind.version, Collection.firstWrite, Collection.laterWrite]

end Kind

namespace Manifest
variable {m : Manifest} {ms : List Manifest} {now : Instant} {b mid after : Backend} {k : Kind} {key : Key}

inductive Turn (now : Instant) (b : Backend) (m : Manifest) : Except ApplyError Unit → Backend → Prop where
  | invalid {fault : TriggerSpecError} (faulty : m.fault? = some fault) :
      Turn now b m (.error (.invalidTrigger m.describe fault)) b
  | nameless {after : Backend} (sound : m.fault? = none) (vacant : b.store.get? m.kind m.key = none)
      (unnamed : m.key.ns = "" ∨ m.key.name = "") (idle : b.store.Idle after.store) :
      Turn now b m (.error (.failed m.describe (.invalid (m.kind.text ++ " requires a namespace and a name")))) after
  | laid {after : Backend} (sound : m.fault? = none)
      (puts : b.store.Puts m.kind
        (Kind.laid (b.store.version + 1) now m.object (b.store.get? m.kind m.key)) after.store)
      (number : after.store.version = b.store.version + 1) : Turn now b m (.ok ()) after

theorem writeRun (k : Kind) (object : k.Object) (now : Instant) (b : Backend) :
    (write k object).run now b =
      match b.store.get? k (k.key object) with
      | some stored => b.perform now (.update k (replacing k stored object))
      | none => b.perform now (.create k object) := by
  have asked : (Procedure.ask (.get k (k.key object))).runWith (Backend.perform now) b =
      (.ok (b.store.get? k (k.key object)), b) := rfl
  unfold write
  rw [Procedure.run, Procedure.runBind, asked]
  cases b.store.get? k (k.key object) <;> rfl

theorem writeNumbers (k : Kind) (object : k.Object) (now : Instant) (b : Backend) :
    ((write k object).run now b).2.store.version = b.store.version + 1 := by
  rw [writeRun]
  cases b.store.get? k (k.key object) <;> exact Backend.performVersion

section
variable {object stored : k.Object}

theorem writeReplaces (found : b.store.get? k (k.key object) = some stored) :
    (∃ o, ((write k object).run now b).1 = .ok o) ∧
      b.store.Puts k (Kind.laid (b.store.version + 1) now object (some stored))
        ((write k object).run now b).2.store := by
  have version : k.version (replacing k stored object) = k.version stored := by
    simp [Kind.version, replacing]
  have own : k.key (replacing k stored object) = k.key object := by
    simp [Kind.key, replacing, Metadata.key]
  have there : (b.store.collection k).objects.get? (k.key (replacing k stored object)) = some stored := by
    rw [own]
    exact found
  obtain ⟨result, puts⟩ := Store.writePuts (f := fun version c => c.replace version 1 k.keepStatus
    (replacing k stored object)) (Collection.replaceAgreed _ _ _ there (.inr version))
  rw [writeRun, found]
  exact ⟨⟨_, result⟩, puts⟩

theorem writeCreates (vacant : b.store.get? k (k.key object) = none) :
    (((k.key object).ns = "" ∨ (k.key object).name = "") ∧
      ((write k object).run now b).1 = .error (.invalid (k.text ++ " requires a namespace and a name")) ∧
      b.store.Idle ((write k object).run now b).2.store) ∨
    ((∃ o, ((write k object).run now b).1 = .ok o) ∧
      b.store.Puts k (Kind.laid (b.store.version + 1) now object none) ((write k object).run now b).2.store) := by
  rw [writeRun, vacant]
  rcases Collection.createVacant (b.store.version + 1) now vacant with ⟨unnamed, refused⟩ | done
  · exact .inl ⟨unnamed, Store.writeIdle (f := fun version c => c.create version now object) refused⟩
  · obtain ⟨result, puts⟩ := Store.writePuts (f := fun version c => c.create version now object) done
    exact .inr ⟨⟨_, result⟩, puts⟩

end

theorem applyRun (sound : m.fault? = none) : m.apply.run now b =
    (match ((write m.kind m.object).run now b).1 with
      | .error e => .error (.failed m.describe e)
      | .ok _ => .ok (),
      ((write m.kind m.object).run now b).2) := by
  unfold apply
  rw [sound, Procedure.run, Procedure.runBind]
  unfold Procedure.run
  cases ((write m.kind m.object).runWith (Backend.perform now) b).1 <;> rfl

theorem turn (now : Instant) (b : Backend) (m : Manifest) :
    Turn now b m (m.apply.run now b).1 (m.apply.run now b).2 := by
  cases fault : m.fault? with
  | some f =>
    unfold apply
    rw [fault]
    exact .invalid fault
  | none =>
    have number := writeNumbers m.kind m.object now b
    rw [applyRun fault]
    cases found : b.store.get? m.kind m.key with
    | some stored =>
      obtain ⟨⟨o, reply⟩, puts⟩ := writeReplaces found
      rw [reply]
      rw [← found] at puts
      exact .laid fault puts number
    | none =>
      rcases writeCreates found with ⟨unnamed, reply, idle⟩ | ⟨⟨o, reply⟩, puts⟩
      · rw [reply]
        exact .nameless fault found unnamed idle
      · rw [reply]
        rw [← found] at puts
        exact .laid fault puts number

theorem laid (done : m.apply.run now b = (.ok (), after)) : Turn now b m (.ok ()) after := by
  have turn := turn now b m
  rw [done] at turn
  exact turn

inductive Brought (now : Instant) : Backend → List Manifest → Backend → Prop where
  | nil (b : Backend) : Brought now b [] b
  | cons {b mid after : Backend} {m : Manifest} {rest : List Manifest}
      (first : m.apply.run now b = (.ok (), mid)) (later : Brought now mid rest after) :
      Brought now b (m :: rest) after

theorem applyFromNext (count : Nat) (m : Manifest) (rest : List Manifest) :
    (applyFrom count (m :: rest)).run now b =
      match m.apply.run now b with
      | (.error e, mid) => (.error e, mid)
      | (.ok (), mid) => (applyFrom (count + 1) rest).run now mid := by
  rw [applyFrom, Procedure.run, Procedure.runBind, Procedure.run]
  rcases m.apply.runWith (Backend.perform now) b with ⟨e | _, mid⟩ <;> rfl

theorem applyFromEnds (ms : List Manifest) (count : Nat) (now : Instant) (b : Backend) :
    (∃ after, Brought now b ms after ∧ (applyFrom count ms).run now b = (.ok (count + ms.length), after)) ∨
    ∃ before m rest e mid after, ms = before ++ m :: rest ∧ Brought now b before mid ∧
      m.apply.run now mid = (.error e, after) ∧ (applyFrom count ms).run now b = (.error e, after) := by
  induction ms generalizing count b with
  | nil => exact .inl ⟨b, .nil b, rfl⟩
  | cons m rest ih =>
    rw [applyFromNext]
    rcases first : m.apply.run now b with ⟨e | _, mid⟩
    · exact .inr ⟨[], m, rest, e, b, mid, rfl, .nil b, first, rfl⟩
    · rcases ih (count + 1) mid with ⟨after, later, ran⟩ | ⟨before, m', rest', e, last, after, split, later, ends⟩
      · refine .inl ⟨after, .cons first later, ?_⟩
        rw [List.length_cons, Nat.add_comm rest.length, ← Nat.add_assoc]
        exact ran
      · exact .inr ⟨m :: before, m', rest', e, last, after, by rw [split, List.cons_append], .cons first later, ends⟩

def under? (k : Kind) (key : Key) (m : Manifest) : Option k.Object :=
  if own : m.kind = k ∧ m.key = key then some (own.1 ▸ m.object) else none

def occurrences (k : Kind) (key : Key) (ms : List Manifest) : List k.Object := ms.filterMap (under? k key)

theorem underOwn (o : k.Object) : under? k (k.key o) ⟨k, o⟩ = some o := by
  rw [under?, dif_pos ⟨rfl, rfl⟩]

theorem underOther {key : Key} (other : m.kind = k → m.key ≠ key) : m.under? k key = none :=
  dif_neg fun own => other own.1 own.2

theorem Turn.found (turn : Turn now b m (.ok ()) after) (k : Kind) (key : Key) :
    (m.under? k key = none ∧ after.store.get? k key = b.store.get? k key) ∨
    ∃ o, m.under? k key = some o ∧
      after.store.get? k key = some (Kind.laid (b.store.version + 1) now o (b.store.get? k key)) := by
  cases turn with
  | laid sound puts =>
    have home : m.kind.key (Kind.laid (b.store.version + 1) now m.object (b.store.get? m.kind m.key)) = m.key :=
      Kind.laidKey _ _ _ _
    have landed := puts.same
    have others {j : Kind} {key : Key} : (j = m.kind → key ≠ m.key) →
        after.store.get? j key = b.store.get? j key := by
      rw [← home]
      exact puts.elsewhere
    rw [home] at landed
    by_cases own : m.kind = k ∧ m.key = key
    · obtain ⟨rfl, rfl⟩ := own
      exact .inr ⟨m.object, underOwn m.object, landed⟩
    · have other : m.kind = k → m.key ≠ key := fun this same => own ⟨this, same⟩
      exact .inl ⟨underOther other, others fun this same => other this.symm same.symm⟩

/-- An object as manifests declare it, of which `first` and `last` are the outermost that are for it. -/
structure Declared (old : Option k.Object) (first last o : k.Object) : Prop where
  spec : k.spec o = k.spec last
  labels : (k.metadata o).labels = (k.metadata last).labels
  annotations : (k.metadata o).annotations = (k.metadata last).annotations
  kept : ∀ stored, old = some stored → (k.metadata o).uid = (k.metadata stored).uid ∧
    (k.metadata o).creationTimestamp = (k.metadata stored).creationTimestamp ∧ k.status o = k.status stored
  made : old = none → k.status o = k.status first

namespace Declared
variable {old : Option k.Object} {first first' last last' o stored : k.Object}

theorem laid (version : UInt64) (now : Instant) (incoming : k.Object) (old : Option k.Object) :
    Declared old incoming incoming (Kind.laid version now incoming old) := by
  cases old with
  | none =>
    refine ⟨?_, ?_, ?_, fun _ had => absurd had.symm (Option.some_ne_none _), fun _ => ?_⟩ <;>
      simp [Kind.laid, Collection.firstWrite]
  | some stored =>
    refine ⟨?_, ?_, ?_, ?_, fun vacant => absurd vacant (Option.some_ne_none _)⟩ <;>
      simp [Kind.laid, Collection.laterWrite, replacing]

theorem trans (once : Declared old first last stored) (later : Declared (some stored) first' last' o) :
    Declared old first last' o := by
  obtain ⟨uid, creation, status⟩ := later.kept stored rfl
  refine ⟨later.spec, later.labels, later.annotations, fun before had => ?_, fun vacant => ?_⟩
  · obtain ⟨uid', creation', status'⟩ := once.kept before had
    exact ⟨uid.trans uid', creation.trans creation', status.trans status'⟩
  · exact status.trans (once.made vacant)

theorem twice (once : Declared old first last stored) (again : Declared (some stored) first last o)
    (key : k.key o = k.key stored) : k.uncounted o = k.uncounted stored := by
  obtain ⟨uid, creation, status⟩ := again.kept stored rfl
  refine Kind.parts ?_ ?_ ?_
  · have name : (k.metadata o).name = (k.metadata stored).name := congrArg Key.name key
    have ns : (k.metadata o).ns = (k.metadata stored).ns := congrArg Key.ns key
    simp [Kind.uncounted, name, ns, uid, creation, again.labels, once.labels, again.annotations, once.annotations]
  · simp [Kind.uncounted, again.spec, once.spec]
  · simp [Kind.uncounted, status]

end Declared

namespace Brought

theorem run (brought : Brought now b ms after) (count : Nat) :
    (applyFrom count ms).run now b = (.ok (count + ms.length), after) := by
  induction brought generalizing count with
  | nil b => rfl
  | cons first later ih =>
    rw [applyFromNext, first, List.length_cons, Nat.add_comm (List.length _), ← Nat.add_assoc]
    exact ih (count + 1)

theorem sound (brought : Brought now b ms after) : ∀ m ∈ ms, m.fault? = none := by
  induction brought with
  | nil b => exact List.forall_mem_nil _
  | cons first later ih =>
    cases laid first with
    | laid sound => exact List.forall_mem_cons.mpr ⟨sound, ih⟩

theorem stands (brought : Brought now b ms after) (k : Kind) (key : Key) :
    (occurrences k key ms = [] ∧ after.store.get? k key = b.store.get? k key) ∨
    ∃ first last o, (occurrences k key ms).head? = some first ∧ (occurrences k key ms).getLast? = some last ∧
      after.store.get? k key = some o ∧ Declared (b.store.get? k key) first last o := by
  induction brought with
  | nil b => exact .inl ⟨rfl, rfl⟩
  | @cons b mid after m rest first later ih =>
    unfold occurrences at ih ⊢
    rcases (laid first).found k key with ⟨other, kept⟩ | ⟨object, own, stored⟩
    · rw [List.filterMap_cons_none other, ← kept]
      exact ih
    · -- the rest finds stored what is laid here, so that the two declarations compose
      have declared := Declared.laid (b.store.version + 1) now object (b.store.get? k key)
      rw [List.filterMap_cons_some own]
      refine .inr ?_
      rcases ih with ⟨none, kept⟩ | ⟨first', last, o, -, lasts, found, more⟩
      · rw [none]
        exact ⟨object, object, _, rfl, rfl, kept.trans stored, declared⟩
      · rw [stored] at more
        refine ⟨object, last, o, rfl, ?_, found, declared.trans more⟩
        rw [List.getLast?_cons, lasts]
        rfl

theorem untouched (brought : Brought now b ms after) (k : Kind) (key : Key) (none : occurrences k key ms = []) :
    after.store.get? k key = b.store.get? k key := by
  rcases brought.stands k key with ⟨-, same⟩ | ⟨_, _, _, heads, -⟩
  · exact same
  · rw [none] at heads
    cases heads

theorem declares (brought : Brought now b ms after) (k : Kind) (key : Key) (first last : k.Object)
    (heads : (occurrences k key ms).head? = some first) (lasts : (occurrences k key ms).getLast? = some last) :
    ∃ o, after.store.get? k key = some o ∧ Declared (b.store.get? k key) first last o := by
  rcases brought.stands k key with ⟨none, -⟩ | ⟨first', last', o, heads', lasts', found, declared⟩
  · rw [none] at heads
    cases heads
  · cases heads.symm.trans heads'
    cases lasts.symm.trans lasts'
    exact ⟨o, found, declared⟩

theorem kept (brought : Brought now b ms after) {o : k.Object} (found : b.store.get? k key = some o) :
    ∃ o', after.store.get? k key = some o' := by
  rcases brought.stands k key with ⟨-, same⟩ | ⟨_, _, o', -, -, there, -⟩
  · exact ⟨o, same.trans found⟩
  · exact ⟨o', there⟩

theorem twice {again : Backend} {later : Instant} (brought : Brought now b ms after)
    (more : Brought later after ms again) (k : Kind) (key : Key) :
    (again.store.get? k key).map k.uncounted = (after.store.get? k key).map k.uncounted := by
  rcases more.stands k key with ⟨-, same⟩ | ⟨first, last, o', heads, lasts, found', twice⟩
  · rw [same]
  · obtain ⟨o, found, once⟩ := brought.declares k key first last heads lasts
    have own : k.key o = key := (after.store.collection k).keyed found
    have own' : k.key o' = key := (again.store.collection k).keyed found'
    rw [found] at twice
    rw [found, found']
    exact congrArg some (once.twice twice (own'.trans own.symm))

theorem there (brought : Brought now b ms after) (named : m ∈ ms) : ∃ o, after.store.get? m.kind m.key = some o := by
  rcases brought.stands m.kind m.key with ⟨none, -⟩ | ⟨_, _, o, -, -, there, -⟩
  · have absent := List.filterMap_eq_nil_iff.mp none m named
    rw [show m.under? m.kind m.key = some m.object from underOwn m.object] at absent
    cases absent
  · exact ⟨o, there⟩

theorem version (brought : Brought now b ms after) :
    after.store.version = b.store.version + UInt64.ofNat ms.length := by
  induction brought with
  | nil b => exact (UInt64.add_zero _).symm
  | cons first later ih =>
    cases laid first with
    | laid _ _ number =>
      rw [ih, number, List.length_cons, UInt64.ofNat_add, UInt64.add_assoc, UInt64.add_comm (UInt64.ofNat _)]
      rfl

theorem newest (brought : Brought now b ms after) (some : ms ≠ []) :
    ∃ k key o, after.store.get? k key = .some o ∧ k.version o = after.store.version := by
  induction brought with
  | nil b => exact absurd rfl some
  | @cons b mid after m rest first later ih =>
    cases later with
    | cons first' later' => exact ih nofun
    | nil =>
      cases laid first with
      | laid _ puts number =>
        exact ⟨m.kind, _, _, puts.same, (Kind.laidVersion _ _ _ _).trans number.symm⟩

end Brought

theorem Brought.again (brought : Brought now b ms after) (later : Instant) :
    ∃ again, Brought later after ms again ∧ (applyAll ms).run later after = (.ok ms.length, again) := by
  rcases applyFromEnds ms 0 later after with ⟨again, more, ran⟩ | ⟨before, m, rest, e, mid, _, rfl, more, refused, -⟩
  · rw [Nat.zero_add] at ran
    exact ⟨again, more, ran⟩
  · -- no turn can fail now: the same manifest was valid before, and its object is there
    have named : m ∈ before ++ m :: rest := List.mem_append_right _ List.mem_cons_self
    have turn := turn later mid m
    rw [refused] at turn
    cases turn with
    | invalid faulty =>
      rw [brought.sound m named] at faulty
      cases faulty
    | nameless _ vacant =>
      obtain ⟨o, there⟩ := brought.there named
      obtain ⟨o', still⟩ := more.kept there
      rw [vacant] at still
      cases still

/-- When a list of manifests goes through, all of it is counted, every object that none is for is as it
was, every other is as the last that is for it declares it, and to apply the list again, at whatever
time, goes through and changes nothing but what counts the writes. -/
theorem lastDeclares {n : Nat} (later : Instant) (done : ((applyAll ms).run now b).1 = .ok n) :
    let after := ((applyAll ms).run now b).2
    let again := (applyAll ms).run later after
    n = ms.length ∧
    (∀ k key, occurrences k key ms = [] → after.store.get? k key = b.store.get? k key) ∧
    (∀ k key first last, (occurrences k key ms).head? = some first → (occurrences k key ms).getLast? = some last →
      ∃ o, after.store.get? k key = some o ∧ Declared (b.store.get? k key) first last o) ∧
    again.1 = .ok n ∧
    ∀ k key, (again.2.store.get? k key).map k.uncounted = (after.store.get? k key).map k.uncounted := by
  rcases applyFromEnds ms 0 now b with ⟨after, brought, ran⟩ | ⟨_, _, _, _, _, _, -, -, -, failed⟩
  · have ran : (applyAll ms).run now b = (.ok ms.length, after) := ran.trans (by rw [Nat.zero_add])
    obtain ⟨again, more, rerun⟩ := brought.again later
    rw [ran] at done
    cases done
    rw [ran]
    dsimp only
    rw [rerun]
    exact ⟨rfl, brought.untouched, brought.declares, rfl, brought.twice more⟩
  · have failed : (applyAll ms).run now b = _ := failed
    rw [failed] at done
    cases done

def revised : List Manifest :=
  [⟨.task, Task.described "old" .pending⟩, ⟨.agent, Agent.bare ⟨"ns", "agent"⟩ none⟩,
    ⟨.task, Task.described "new" .running⟩]

theorem revisedDeclared : ((applyAll revised).run default .empty).1 = .ok 3 ∧
    ∃ o : Task, ((applyAll revised).run default .empty).2.store.get? .task ⟨"ns", "task"⟩ = some o ∧
      o.spec.description = "new" ∧ o.status.phase = some .pending := by
  have done : ((applyAll revised).run default .empty).1 = .ok 3 := rfl
  obtain ⟨-, -, declares, -⟩ := lastDeclares default done
  obtain ⟨o, found, declared⟩ := declares .task ⟨"ns", "task"⟩ (Task.described "old" .pending)
    (Task.described "new" .running) rfl rfl
  exact ⟨done, o, found, congrArg TaskSpec.description declared.spec, congrArg TaskStatus.phase (declared.made rfl)⟩

/-- A manifest at which a list stops: a trigger that is not valid, or a new object without a name. -/
def Halts (m : Manifest) (e : ApplyError) : Prop :=
  (∃ fault, m.fault? = some fault ∧ e = .invalidTrigger m.describe fault) ∨
  (m.fault? = none ∧ (m.key.ns = "" ∨ m.key.name = "") ∧
    e = .failed m.describe (.invalid (m.kind.text ++ " requires a namespace and a name")))

theorem Brought.changes (brought : Brought now b ms after) (copies : b.store.Copies)
    (room : b.store.version.toNat + ms.length < UInt64.size) (some : ms ≠ []) :
    ∃ k key, after.store.get? k key ≠ b.store.get? k key := by
  -- no object that was there has the newest version
  obtain ⟨k, key, o, found, newest⟩ := brought.newest some
  refine ⟨k, key, fun same => ?_⟩
  have given : k.version o ≤ b.store.version := (copies k key o (same.symm.trans found)).given
  have length : (UInt64.ofNat ms.length).toNat = ms.length := UInt64.toNat_ofNat_of_lt' (by omega)
  rw [newest, brought.version, UInt64.le_iff_toNat_le, UInt64.toNat_add, length, Nat.mod_eq_of_lt room] at given
  exact absurd (List.length_pos_iff.mpr some) (by omega)

/-- With an invalid trigger in it a list of manifests fails, at the first that cannot be brought in. The
manifests before it stay brought in, as if the list had ended there, so the objects are all as they were
only if there are none. -/
theorem refusedPartway (now : Instant) (b : Backend) (faulty : ∃ m ∈ ms, m.fault? ≠ none) :
    let ran := (applyAll ms).run now b
    ∃ before m rest e mid, ms = before ++ m :: rest ∧ (∀ sound ∈ before, sound.fault? = none) ∧ m.Halts e ∧
      (applyAll before).run now b = (.ok before.length, mid) ∧ ran.1 = .error e ∧
      (∀ k key, ran.2.store.get? k key = mid.store.get? k key) ∧
      (b.store.Copies → b.store.version.toNat + before.length < UInt64.size →
        ((∀ k key, ran.2.store.get? k key = b.store.get? k key) ↔ before = [])) := by
  rcases applyFromEnds ms 0 now b with
    ⟨after, brought, -⟩ | ⟨before, m, rest, e, mid, after, split, brought, refused, ran⟩
  · obtain ⟨m, named, fault⟩ := faulty
    exact absurd (brought.sound m named) fault
  · have ran : (applyAll ms).run now b = (.error e, after) := ran
    have turn := turn now mid m
    rw [refused] at turn
    have stopped : m.Halts e ∧ mid.store.Idle after.store := by
      cases turn with
      | invalid faulty => exact ⟨.inl ⟨_, faulty, rfl⟩, fun _ => rfl⟩
      | nameless sound _ unnamed idle => exact ⟨.inr ⟨sound, unnamed, rfl⟩, idle⟩
    rw [ran]
    refine ⟨before, m, rest, e, mid, split, brought.sound, stopped.1, ?_, rfl, stopped.2.same, fun copies room => ?_⟩
    · exact (brought.run 0).trans (by rw [Nat.zero_add])
    · refine ⟨fun same => ?_, fun none => ?_⟩
      · by_cases none : before = []
        · exact none
        · obtain ⟨k, key, changed⟩ := brought.changes copies room none
          exact absurd ((stopped.2.same k key).symm.trans (same k key)) changed
      · subst none
        cases brought with
        | nil => exact stopped.2.same

def brokenLast : List Manifest :=
  [⟨.agent, Agent.bare ⟨"ns", "agent"⟩ none⟩,
    ⟨.trigger, ⟨Metadata.ofKey ⟨"ns", "hook"⟩, ⟨none, "", .allow, none, []⟩, .fresh⟩⟩]

theorem brokenFaulty : ∃ m ∈ brokenLast, m.fault? ≠ none :=
  ⟨_, List.mem_cons_of_mem _ List.mem_cons_self, by decide⟩

theorem agentStays : (∃ m ∈ brokenLast, m.fault? ≠ none) ∧
    ∃ before, before ≠ [] ∧ ∃ mid, (applyAll before).run default .empty = (.ok before.length, mid) ∧
      ∀ k key, ((applyAll brokenLast).run default .empty).2.store.get? k key = mid.store.get? k key := by
  obtain ⟨before, m, rest, e, mid, split, -, halts, ran, -, same, -⟩ :=
    refusedPartway default .empty brokenFaulty
  refine ⟨brokenFaulty, before, ?_, mid, ran, same⟩
  rintro rfl
  cases split
  rcases halts with ⟨_, fault, -⟩ | ⟨-, unnamed, -⟩
  · cases fault
  · revert unnamed
    decide

theorem notAllOrNothing : ¬ ∀ (ms : List Manifest) (now : Instant) (b : Backend), (∃ m ∈ ms, m.fault? ≠ none) →
    (∃ e, ((applyAll ms).run now b).1 = .error e) ∧
      ∀ k key, ((applyAll ms).run now b).2.store.get? k key = b.store.get? k key := by
  intro claim
  have kept := (claim brokenLast default .empty brokenFaulty).2 .agent ⟨"ns", "agent"⟩
  have there : (((applyAll brokenLast).run default .empty).2.store.get? .agent ⟨"ns", "agent"⟩).isSome = true := rfl
  rw [kept] at there
  cases there

end Manifest
end Turnstile
