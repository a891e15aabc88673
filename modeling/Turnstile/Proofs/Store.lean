import Turnstile.Procedure
import Turnstile.Proofs.SortedMap
/-! What writes do to the store. Each operation either leaves its collection as
it is or puts or drops one object, and the other collections stay. -/
namespace Turnstile
open Std

def Kind.version (k : Kind) (o : k.Object) : UInt64 := (k.metadata o).resourceVersion

namespace Collection
variable {k : Kind}

@[simp] theorem putSame (c : Collection k) (o : k.Object) :
    (c.put o).objects.get? (k.key o) = some o :=
  SortedMap.getInsertSame _ _ _

theorem putOther (c : Collection k) {o : k.Object} {key : Key} (other : key ≠ k.key o) :
    (c.put o).objects.get? key = c.objects.get? key :=
  SortedMap.getInsertOther _ _ other

@[simp] theorem dropSame (c : Collection k) (key : Key) (o : k.Object) :
    (c.drop key o).objects.get? key = none :=
  SortedMap.getEraseSame _ _

theorem dropOther (c : Collection k) {key other : Key} (o : k.Object) (different : other ≠ key) :
    (c.drop key o).objects.get? other = c.objects.get? other :=
  SortedMap.getEraseOther _ different

theorem putFound {c : Collection k} {o found : k.Object} {key : Key}
    (h : (c.put o).objects.get? key = some found) :
    (key = k.key o ∧ found = o) ∨ (key ≠ k.key o ∧ c.objects.get? key = some found) := by
  by_cases same : key = k.key o
  · subst same
    rw [putSame] at h
    exact .inl ⟨rfl, (Option.some.inj h).symm⟩
  · rw [putOther c same] at h
    exact .inr ⟨same, h⟩

theorem dropFound {c : Collection k} {o found : k.Object} {key other : Key}
    (h : (c.drop key o).objects.get? other = some found) :
    other ≠ key ∧ c.objects.get? other = some found := by
  by_cases same : other = key
  · subst same
    rw [dropSame] at h
    cases h
  · rw [dropOther c o same] at h
    exact ⟨same, h⟩

theorem listAll (c : Collection k) : c.list .all = c.objects.values := by
  unfold list
  rw [List.filter_eq_self]
  intro o _
  rfl

section
variable {c : Collection k} {o old : k.Object} {key : Key} (p : k.Object → Bool)

theorem countPutNew (vacant : c.objects.get? (k.key o) = none) :
    (c.put o).objects.values.countP p = c.objects.values.countP p + if p o then 1 else 0 := by
  have perm := SortedMap.insertPerm c.objects (k.key o) o
  rw [SortedMap.eraseAbsent vacant] at perm
  have counted := perm.countP_eq p
  rw [List.countP_cons] at counted
  exact counted

theorem countPut (stored : c.objects.get? (k.key o) = some old) :
    (c.put o).objects.values.countP p + (if p old then 1 else 0) =
      c.objects.values.countP p + if p o then 1 else 0 := by
  have after := (SortedMap.insertPerm c.objects (k.key o) o).countP_eq p
  have before := (SortedMap.foundPerm stored).countP_eq p
  rw [List.countP_cons] at after before
  have same : (c.put o).objects.values.countP p =
    (c.objects.insert (k.key o) o).values.countP p := rfl
  omega

theorem countDrop (stored : c.objects.get? key = some old) :
    (c.drop key old).objects.values.countP p + (if p old then 1 else 0) =
      c.objects.values.countP p := by
  have before := (SortedMap.foundPerm stored).countP_eq p
  rw [List.countP_cons] at before
  exact before.symm

end

theorem keysDistinct (c : Collection k) : (c.objects.values.map k.key).Nodup := by
  have own : c.objects.values.map k.key = c.objects.entries.map Prod.fst := by
    change (c.objects.entries.map Prod.snd).map k.key = _
    rw [List.map_map]
    refine List.map_congr_left fun e inside => ?_
    exact c.keyed (SortedMap.memEntries.mp inside)
  rw [own]
  exact c.objects.distinctKeys

def firstWrite (version : UInt64) (now : Instant) (o : k.Object) : k.Object :=
  k.withMetadata o { k.metadata o with
    uid := Uid.ofNat version.toNat
    resourceVersion := version
    generation := 1
    creationTimestamp := some ((k.metadata o).creationTimestamp.getD now) }

def laterWrite (version growth : UInt64) (current next : k.Object) : k.Object :=
  k.withMetadata next { k.metadata next with
    uid := (k.metadata current).uid
    creationTimestamp := (k.metadata current).creationTimestamp
    resourceVersion := version
    generation := (k.metadata current).generation + growth }

theorem createCases (c : Collection k) (version now o) :
    (∃ e, c.create version now o = (.error e, c)) ∨
    (c.objects.get? (k.key o) = none ∧
      c.create version now o = (.ok (firstWrite version now o), c.put (firstWrite version now o))) := by
  dsimp only [create]
  split
  · exact .inl ⟨_, rfl⟩
  · split
    · exact .inl ⟨_, rfl⟩
    · rename_i vacant
      refine .inr ⟨?_, rfl⟩
      have absent : (c.objects.get? (k.key o)).isSome ≠ true := vacant
      simpa using absent

theorem createNamed {c : Collection k} {version : UInt64} {now : Instant} {o stored : k.Object}
    (created : (c.create version now o).1 = .ok stored) :
    stored = firstWrite version now o ∧ (k.key o).ns ≠ "" ∧ (k.key o).name ≠ "" := by
  dsimp only [create] at created
  split at created
  · cases created
  · rename_i named
    split at created
    · cases created
    · cases created
      simp only [Bool.or_eq_true, String.isEmpty_iff, not_or] at named
      exact ⟨rfl, named.2, named.1⟩

section
variable {c : Collection k} (version growth : UInt64)
  (merge : (stored incoming : k.Object) → k.Object) {o current : k.Object}

theorem replaceMissing (absent : c.objects.get? (k.key o) = none) :
    c.replace version growth merge o = (.error (.notFound k (k.key o).text), c) := by
  unfold replace
  have absent' : c.objects.get? (k.metadata o).key = none := absent
  simp only [absent']
  rfl

theorem replaceStale (found : c.objects.get? (k.key o) = some current) (set : k.version o ≠ 0)
    (stale : k.version o ≠ k.version current) :
    ∃ cause, c.replace version growth merge o = (.error (.conflict k (k.key o).text cause), c) := by
  unfold replace
  have found' : c.objects.get? (k.metadata o).key = some current := found
  have refused : (decide ((k.metadata o).resourceVersion ≠ 0) &&
      decide ((k.metadata o).resourceVersion ≠ (k.metadata current).resourceVersion)) = true := by
    simpa [Kind.version] using And.intro set stale
  simp only [found', refused, if_true]
  exact ⟨_, rfl⟩

theorem replaceAgreed (found : c.objects.get? (k.key o) = some current)
    (agreed : k.version o = 0 ∨ k.version o = k.version current) :
    c.replace version growth merge o = (.ok (laterWrite version growth current (merge current o)),
      c.put (laterWrite version growth current (merge current o))) := by
  unfold replace
  have found' : c.objects.get? (k.metadata o).key = some current := found
  have accepted : (decide ((k.metadata o).resourceVersion ≠ 0) &&
      decide ((k.metadata o).resourceVersion ≠ (k.metadata current).resourceVersion)) = false := by
    rcases agreed with unset | same
    · simp [Kind.version] at unset
      simp [unset]
    · simp [Kind.version] at same
      simp [same]
  simp only [found', accepted, Bool.false_eq_true, if_false]
  rfl

end

theorem replaceCases (c : Collection k) (version growth merge) (o : k.Object) :
    (∃ e, c.replace version growth merge o = (.error e, c)) ∨
    (∃ current, c.objects.get? (k.key o) = some current ∧
      (k.version o = 0 ∨ k.version o = k.version current) ∧
      c.replace version growth merge o =
        (.ok (laterWrite version growth current (merge current o)),
          c.put (laterWrite version growth current (merge current o)))) := by
  cases found : c.objects.get? (k.key o) with
  | none => exact .inl ⟨_, replaceMissing _ _ _ found⟩
  | some current =>
    by_cases agreed : k.version o = 0 ∨ k.version o = k.version current
    · exact .inr ⟨current, rfl, agreed, replaceAgreed _ _ _ found agreed⟩
    · obtain ⟨set, stale⟩ := not_or.mp agreed
      obtain ⟨cause, refused⟩ := replaceStale version growth merge found set stale
      exact .inl ⟨_, refused⟩

end Collection

namespace Store

theorem listAll (s : Store) (k : Kind) : s.list k .all = (s.collection k).objects.values :=
  (s.collection k).listAll

end Store

inductive TaskWrite (c : Call) (before : Collection .task) : Collection .task → Prop where
  | none : TaskWrite c before before
  | created {o t : Task} (asked : c = .create .task o) (vacant : before.objects.get? t.key = .none)
      (status : t.status = o.status) : TaskWrite c before (before.put t)
  | respecified {o t current : Task} (asked : c = .update .task o)
      (stored : before.objects.get? t.key = some current) (status : t.status = current.status)
      (uid : t.metadata.uid = current.metadata.uid) : TaskWrite c before (before.put t)
  | restatused {o t current : Task} (asked : c = .updateStatus .task o)
      (stored : before.objects.get? t.key = some current)
      (status : t.status = o.status) (key : t.key = o.key) (spec : t.spec = current.spec) :
      TaskWrite c before (before.put t)
  | deleted {key : Key} {t : Task} (asked : c = .delete .task key)
      (stored : before.objects.get? key = some t) : TaskWrite c before (before.drop key t)

namespace TaskWrite

theorem ofCreate (s : Store) (now : Instant) (k : Kind) (o : k.Object) :
    TaskWrite (.create k o) s.tasks (s.create now k o).2.tasks := by
  cases k with
  | task =>
    have step := s.tasks.createCases (s.version + 1) now o
    have after : (s.create now .task o).2.tasks = (s.tasks.create (s.version + 1) now o).2 := rfl
    rcases step with ⟨e, same⟩ | ⟨vacant, stored⟩
    · rw [after, same]; exact .none
    · rw [after, stored]; exact .created rfl vacant rfl
  | agent | template | trigger | secret => exact .none

theorem ofUpdate (s : Store) (k : Kind) (o : k.Object) :
    TaskWrite (.update k o) s.tasks (s.update k o).2.tasks := by
  cases k with
  | task =>
    have step := s.tasks.replaceCases (s.version + 1) 1 Kind.task.keepStatus o
    have after : (s.update .task o).2.tasks =
      (s.tasks.replace (s.version + 1) 1 Kind.task.keepStatus o).2 := rfl
    rcases step with ⟨e, same⟩ | ⟨current, stored, -, written⟩
    · rw [after, same]; exact .none
    · rw [after, written]; exact .respecified rfl stored rfl rfl
  | agent | template | trigger | secret => exact .none

theorem ofUpdateStatus (s : Store) (k : Kind) (o : k.Object) :
    TaskWrite (.updateStatus k o) s.tasks (s.updateStatus k o).2.tasks := by
  cases k with
  | task =>
    have step := s.tasks.replaceCases (s.version + 1) 0 Kind.task.takeStatus o
    have after : (s.updateStatus .task o).2.tasks =
      (s.tasks.replace (s.version + 1) 0 Kind.task.takeStatus o).2 := rfl
    rcases step with ⟨e, same⟩ | ⟨current, stored, -, written⟩
    · rw [after, same]; exact .none
    · rw [after, written]
      have key : current.key = Task.key o := s.tasks.keyed stored
      have found : s.tasks.objects.get? current.key = some current := by rw [key]; exact stored
      exact .restatused rfl found rfl key rfl
  | agent | template | trigger | secret => exact .none

theorem ofDelete (s : Store) (k : Kind) (key : Key) :
    TaskWrite (.delete k key) s.tasks (s.delete k key).2.tasks := by
  cases k with
  | task =>
    have after : (s.delete .task key).2.tasks = (s.tasks.delete key).2 := rfl
    rw [after]
    unfold Collection.delete
    split
    · exact .none
    · rename_i stored
      exact .deleted rfl stored
  | agent | template | trigger | secret => exact .none

theorem found {c : Call} {before after : Collection .task} {key : Key} {t : Task}
    (write : TaskWrite c before after) (stored : after.objects.get? key = some t) :
    (∃ o, c = .create .task o ∧ before.objects.get? key = .none ∧ t.status = o.status) ∨
    (∃ old, before.objects.get? key = some old ∧ t.status = old.status) ∨
    (∃ o old, c = .updateStatus .task o ∧ before.objects.get? key = some old ∧
      t.key = o.key ∧ t.status = o.status) := by
  cases write with
  | none => exact .inr (.inl ⟨t, stored, rfl⟩)
  | created asked vacant status =>
    rcases Collection.putFound stored with ⟨rfl, rfl⟩ | ⟨-, old⟩
    · exact .inl ⟨_, asked, vacant, status⟩
    · exact .inr (.inl ⟨t, old, rfl⟩)
  | respecified asked current status =>
    rcases Collection.putFound stored with ⟨rfl, rfl⟩ | ⟨-, old⟩
    · exact .inr (.inl ⟨_, current, status⟩)
    · exact .inr (.inl ⟨t, old, rfl⟩)
  | restatused asked current status same =>
    rcases Collection.putFound stored with ⟨rfl, rfl⟩ | ⟨-, old⟩
    · exact .inr (.inr ⟨_, _, asked, current, same, status⟩)
    · exact .inr (.inl ⟨t, old, rfl⟩)
  | deleted => exact .inr (.inl ⟨t, (Collection.dropFound stored).2, rfl⟩)

end TaskWrite

theorem Backend.performTasks (now : Instant) (c : Call) (b : Backend) :
    TaskWrite c b.store.tasks (b.perform now c).2.store.tasks := by
  cases c with
  | create k o => exact .ofCreate b.store now k o
  | update k o => exact .ofUpdate b.store k o
  | updateStatus k o => exact .ofUpdateStatus b.store k o
  | delete k key => exact .ofDelete b.store k key
  | get | list | createWorkload | workloadStatus | deleteWorkload => exact .none

def Call.LeavesStatus : Call → Prop
  | .create .task task => task.status = .fresh
  | .updateStatus .task _ => False
  | _ => True

theorem Backend.performOrigin {now : Instant} {c : Call} {b : Backend} {key : Key} {t : Task}
    (leaves : c.LeavesStatus) (found : (b.perform now c).2.store.get? .task key = some t) :
    (b.store.get? .task key = none ∧ t.status = .fresh) ∨
    (∃ old, b.store.get? .task key = some old ∧ t.status = old.status ∧
      t.metadata.uid = old.metadata.uid) := by
  have write := b.performTasks now c
  change (b.perform now c).2.store.tasks.objects.get? key = some t at found
  change (b.store.tasks.objects.get? key = none ∧ _) ∨ ∃ old, b.store.tasks.objects.get? key = some old ∧ _
  generalize (b.perform now c).2.store.tasks = after at write found
  cases write with
  | none => exact .inr ⟨t, found, rfl, rfl⟩
  | created asked vacant status =>
    subst asked
    rcases Collection.putFound found with ⟨rfl, rfl⟩ | ⟨-, old⟩
    · exact .inl ⟨vacant, status.trans leaves⟩
    · exact .inr ⟨t, old, rfl, rfl⟩
  | respecified asked current status uid =>
    rcases Collection.putFound found with ⟨rfl, rfl⟩ | ⟨-, old⟩
    · exact .inr ⟨_, current, status, uid⟩
    · exact .inr ⟨t, old, rfl, rfl⟩
  | restatused asked =>
    rw [asked] at leaves
    exact leaves.elim
  | deleted => exact .inr ⟨t, (Collection.dropFound found).2, rfl, rfl⟩

theorem Backend.performLeaves {now : Instant} {c : Call} {b : Backend} {key : Key} {t : Task}
    (leaves : c.LeavesStatus) (found : (b.perform now c).2.store.get? .task key = some t) :
    (b.store.get? .task key = none ∧ t.status = .fresh) ∨
    (∃ old, b.store.get? .task key = some old ∧ t.status = old.status) :=
  (performOrigin leaves found).imp_right fun ⟨old, before, status, _⟩ => ⟨old, before, status⟩

theorem Backend.performKeeps {now : Instant} {c : Call} {b : Backend} {key : Key} {t : Task}
    (leaves : c.LeavesStatus) (spared : c ≠ .delete .task key)
    (stored : b.store.get? .task key = some t) :
    ∃ u, (b.perform now c).2.store.get? .task key = some u ∧ u.status = t.status := by
  have there : b.store.tasks.objects.get? key = some t := stored
  have write := b.performTasks now c
  change ∃ u, (b.perform now c).2.store.tasks.objects.get? key = some u ∧ u.status = t.status
  generalize (b.perform now c).2.store.tasks = after at write ⊢
  cases write with
  | none => exact ⟨t, there, rfl⟩
  | @created o made asked vacant status =>
    have other : key ≠ Kind.task.key made := by
      rintro rfl
      rw [show b.store.tasks.objects.get? (Kind.task.key made) = .none from vacant] at there
      cases there
    exact ⟨t, (Collection.putOther b.store.tasks other).trans there, rfl⟩
  | @respecified o made current asked before status =>
    by_cases same : key = Kind.task.key made
    · subst same
      rw [show b.store.tasks.objects.get? (Kind.task.key made) = some current from before] at there
      cases there
      exact ⟨made, Collection.putSame b.store.tasks made, status⟩
    · exact ⟨t, (Collection.putOther b.store.tasks same).trans there, rfl⟩
  | restatused asked =>
    rw [asked] at leaves
    exact leaves.elim
  | @deleted gone old asked =>
    have other : key ≠ gone := by
      rintro rfl
      exact spared asked
    exact ⟨t, (Collection.dropOther b.store.tasks old other).trans there, rfl⟩

def Agent.bare (key : Key) (limit : Option UInt32) : Agent :=
  ⟨Metadata.ofKey key, ⟨"image", none, limit, none, []⟩⟩

def Task.bare (key : Key) (agent : String) : Task :=
  ⟨Metadata.ofKey key, ⟨"", some ⟨agent, none⟩, [], [], none, none⟩, .fresh⟩

end Turnstile
