import Turnstile.Proofs.Store.Versions
/-! What a stored object keeps. Writers of the specification and writers of the status bring
whole objects, and each changes only its own part; its identity is that of its creation. -/
namespace Turnstile

namespace Kind

abbrev Spec : Kind → Type
  | task => TaskSpec
  | agent => AgentSpec
  | template => TemplateSpec
  | trigger => TriggerSpec
  | secret => TextMap

def spec : (k : Kind) → k.Object → k.Spec
  | task, o => o.spec
  | agent, o => o.spec
  | template, o => o.spec
  | trigger, o => o.spec
  | secret, o => o.data

abbrev Status : Kind → Type
  | task => TaskStatus
  | trigger => TriggerStatus
  | agent | template | secret => Unit

def status : (k : Kind) → k.Object → k.Status
  | task, o => o.status
  | trigger, o => o.status
  | agent, _ | template, _ | secret, _ => ()

section
variable (k : Kind) (stored incoming : k.Object) (m : Metadata)

@[simp] theorem specWith : k.spec (k.withMetadata stored m) = k.spec stored := by cases k <;> rfl

@[simp] theorem statusWith : k.status (k.withMetadata stored m) = k.status stored := by cases k <;> rfl

@[simp] theorem metadataKept : k.metadata (k.keepStatus stored incoming) = k.metadata incoming := by
  cases k <;> rfl

@[simp] theorem specKept : k.spec (k.keepStatus stored incoming) = k.spec incoming := by cases k <;> rfl

@[simp] theorem statusKept : k.status (k.keepStatus stored incoming) = k.status stored := by
  cases k <;> rfl

@[simp] theorem metadataTaken : k.metadata (k.takeStatus stored incoming) = k.metadata stored := by
  cases k <;> rfl

@[simp] theorem specTaken : k.spec (k.takeStatus stored incoming) = k.spec stored := by cases k <;> rfl

@[simp] theorem statusTaken : k.status (k.takeStatus stored incoming) = k.status incoming := by
  cases k <;> rfl

theorem keyKept : k.key (k.keepStatus stored incoming) = k.key incoming :=
  congrArg Metadata.key (k.metadataKept stored incoming)

theorem keyTaken : k.key (k.takeStatus stored incoming) = k.key stored :=
  congrArg Metadata.key (k.metadataTaken stored incoming)

end
end Kind

def brought? {j : Kind} (k : Kind) (key : Key) (o : j.Object) (reply : Except StoreError j.Object) :
    Option k.Object :=
  if own : j = k ∧ j.key o = key ∧ reply.toOption.isSome then some (own.1 ▸ o) else none

def Told.respecified? (k : Kind) (key : Key) : Told → Option k.Object
  | ⟨.update _ o, reply⟩ => brought? k key o reply
  | _ => none

def Told.restatused? (k : Kind) (key : Key) : Told → Option k.Object
  | ⟨.updateStatus _ o, reply⟩ => brought? k key o reply
  | _ => none

inductive Told.Leaves {k : Kind} (t : Told) (key : Key) (o : k.Object) : Option k.Object → Prop where
  | same (spec : t.respecified? k key = none) (status : t.restatused? k key = none) : Leaves t key o (some o)
  | respecified {incoming : k.Object} (version : UInt64) (spec : t.respecified? k key = some incoming)
      (status : t.restatused? k key = none) :
      Leaves t key o (some (Collection.laterWrite version 1 o (k.keepStatus o incoming)))
  | restatused {incoming : k.Object} (version : UInt64) (spec : t.respecified? k key = none)
      (status : t.restatused? k key = some incoming) :
      Leaves t key o (some (Collection.laterWrite version 0 o (k.takeStatus o incoming)))
  | deleted (gone : t = ⟨.delete k key, .ok true⟩) : Leaves t key o none

namespace Store
variable {s : Store} {j k : Kind} {α : Type}

theorem writeOwn (f : UInt64 → Collection k → α × Collection k) (key : Key) :
    (s.write k f).2.get? k key = (f (s.version + 1) (s.collection k)).2.objects.get? key := by
  unfold get? write
  rw [collectionSame]

theorem writeOther (f : UInt64 → Collection j → α × Collection j) (other : k ≠ j) (key : Key) :
    (s.write j f).2.get? k key = s.get? k key := by
  unfold get? write
  rw [collectionOther _ _ other, numberedCollection]

end Store

section
variable {k : Kind} {key : Key} {o : k.Object}

theorem Collection.createSpares (c : Collection k) (version : UInt64) (now : Instant)
    (incoming : k.Object) (found : c.objects.get? key = some o) :
    (c.create version now incoming).2.objects.get? key = some o := by
  rcases c.createCases version now incoming with ⟨e, refused⟩ | ⟨vacant, done⟩
  · rw [refused]
    exact found
  · have other : key ≠ k.key (firstWrite version now incoming) := by
      rintro rfl
      have same : k.key (firstWrite version now incoming) = k.key incoming := by
        simp [Kind.key, firstWrite, Metadata.key]
      rw [same, vacant] at found
      cases found
    rw [done]
    exact (c.putOther other).trans found

theorem Collection.replaceBrings (c : Collection k) (version growth : UInt64)
    (merge : (stored incoming : k.Object) → k.Object) (incoming : k.Object)
    (home : ∀ stored, k.key stored = k.key incoming → k.key (merge stored incoming) = k.key incoming)
    (found : c.objects.get? key = some o) :
    (brought? k key incoming (c.replace version growth merge incoming).1 = none ∧
      (c.replace version growth merge incoming).2.objects.get? key = some o) ∨
    (brought? k key incoming (c.replace version growth merge incoming).1 = some incoming ∧
      (c.replace version growth merge incoming).2.objects.get? key =
        some (laterWrite version growth o (merge o incoming))) := by
  rcases c.replaceCases version growth merge incoming with ⟨e, refused⟩ | ⟨current, stood, -, done⟩
  · rw [refused]
    exact .inl ⟨by simp [brought?, Except.toOption], found⟩
  · have own : k.key (laterWrite version growth current (merge current incoming)) = k.key incoming := by
      rw [← home current (c.keyed stood)]
      simp [Kind.key, laterWrite, Metadata.key]
    rw [done]
    by_cases same : k.key incoming = key
    · subst same
      rw [stood] at found
      cases found
      refine .inr ⟨by simp [brought?, Except.toOption], ?_⟩
      rw [← own]
      exact c.putSame _
    · refine .inl ⟨by simp [brought?, same], ?_⟩
      rw [← own] at same
      exact (c.putOther (Ne.symm same)).trans found

theorem broughtElsewhere {j : Kind} {incoming : j.Object} {reply : Except StoreError j.Object}
    (other : j ≠ k) : brought? k key incoming reply = none := by
  simp [brought?, other]

theorem Backend.performOn (now : Instant) (c : Call) {b : Backend} (found : b.store.get? k key = some o) :
    (Told.mk c (b.perform now c).1).Leaves key o ((b.perform now c).2.store.get? k key) := by
  cases c with
  | get | list | createWorkload | workloadStatus | deleteWorkload =>
    change Told.Leaves _ key o (b.store.get? k key)
    rw [found]
    exact .same rfl rfl
  | create j incoming =>
    have kept : (b.store.create now j incoming).2.get? k key = some o := by
      by_cases own : k = j
      · subst own
        exact (Store.writeOwn _ key).trans (Collection.createSpares _ _ now incoming found)
      · exact (Store.writeOther _ own key).trans found
    change Told.Leaves _ key o ((b.store.create now j incoming).2.get? k key)
    rw [kept]
    exact .same rfl rfl
  | update j incoming =>
    change Told.Leaves _ key o ((b.store.update j incoming).2.get? k key)
    by_cases own : j = k
    · subst own
      rw [show (b.store.update j incoming).2.get? j key = _ from Store.writeOwn _ key]
      rcases Collection.replaceBrings (b.store.collection j) (b.store.version + 1) 1
        j.keepStatus incoming (fun stored _ => j.keyKept stored incoming) found with ⟨none, kept⟩ | ⟨brings, written⟩
      · rw [kept]
        exact .same none rfl
      · rw [written]
        exact .respecified _ brings rfl
    · rw [show (b.store.update j incoming).2.get? k key = _ from Store.writeOther _ (Ne.symm own) key, found]
      exact .same (broughtElsewhere own) rfl
  | updateStatus j incoming =>
    change Told.Leaves _ key o ((b.store.updateStatus j incoming).2.get? k key)
    by_cases own : j = k
    · subst own
      rw [show (b.store.updateStatus j incoming).2.get? j key = _ from Store.writeOwn _ key]
      rcases Collection.replaceBrings (b.store.collection j) (b.store.version + 1) 0
        j.takeStatus incoming (fun stored same => (j.keyTaken stored incoming).trans same) found with ⟨none, kept⟩ | ⟨brings, written⟩
      · rw [kept]
        exact .same rfl none
      · rw [written]
        exact .restatused _ rfl brings
    · rw [show (b.store.updateStatus j incoming).2.get? k key = _ from
        Store.writeOther _ (Ne.symm own) key, found]
      exact .same rfl (broughtElsewhere own)
  | delete j gone =>
    change Told.Leaves ⟨.delete j gone, .ok (b.store.delete j gone).1⟩ key o
      ((b.store.delete j gone).2.get? k key)
    unfold Store.get?
    have there : (b.store.collection k).objects.get? key = some o := found
    rcases b.store.deleteCases j gone with ⟨-, kept⟩ | ⟨old, done, dropped, others⟩
    · rw [kept k, there]
      exact .same rfl rfl
    · by_cases own : k = j
      · subst own
        rw [dropped, done]
        by_cases same : key = gone
        · subst same
          rw [Collection.dropSame]
          exact .deleted rfl
        · rw [Collection.dropOther _ _ same, there]
          exact .same rfl rfl
      · rw [others k own, there]
        exact .same rfl rfl

end

inductive Session (start : Backend) : List Told → Backend → Prop where
  | opened : Session start [] start
  | called {log : List Told} {b : Backend} (past : Session start log b) (now : Instant) (c : Call) :
      Session start (log ++ [⟨c, (b.perform now c).1⟩]) (b.perform now c).2

/-- An object since it was made, after some writes of its specification and of its status. -/
structure Standing {k : Kind} (first made : k.Object) (specs statuses : List k.Object) (o : k.Object) :
    Prop where
  uid : (k.metadata o).uid = (k.metadata made).uid
  creation : (k.metadata o).creationTimestamp = (k.metadata made).creationTimestamp
  generation : (k.metadata o).generation = UInt64.ofNat (1 + specs.length)
  spec : k.spec o = k.spec (specs.getLastD first)
  labels : (k.metadata o).labels = (k.metadata (specs.getLastD first)).labels
  annotations : (k.metadata o).annotations = (k.metadata (specs.getLastD first)).annotations
  status : k.status o = k.status (statuses.getLastD first)

namespace Standing
variable {k : Kind} {first made o : k.Object} {specs statuses : List k.Object}

theorem created (version : UInt64) (now : Instant) (first : k.Object) :
    Standing first (Collection.firstWrite version now first) [] [] (Collection.firstWrite version now first) where
  uid := rfl
  creation := rfl
  generation := by simp [Collection.firstWrite]
  spec := by simp [Collection.firstWrite]
  labels := by simp [Collection.firstWrite]
  annotations := by simp [Collection.firstWrite]
  status := by simp [Collection.firstWrite]

theorem respecified (h : Standing first made specs statuses o) (version : UInt64) (incoming : k.Object) :
    Standing first made (specs ++ [incoming]) statuses
      (Collection.laterWrite version 1 o (k.keepStatus o incoming)) where
  uid := by simpa [Collection.laterWrite] using h.uid
  creation := by simpa [Collection.laterWrite] using h.creation
  generation := by
    simp [Collection.laterWrite, h.generation, UInt64.ofNat_add, UInt64.add_assoc]
  spec := by simp [Collection.laterWrite]
  labels := by simp [Collection.laterWrite]
  annotations := by simp [Collection.laterWrite]
  status := by simpa [Collection.laterWrite] using h.status

theorem restatused (h : Standing first made specs statuses o) (version : UInt64) (incoming : k.Object) :
    Standing first made specs (statuses ++ [incoming])
      (Collection.laterWrite version 0 o (k.takeStatus o incoming)) where
  uid := by simpa [Collection.laterWrite] using h.uid
  creation := by simpa [Collection.laterWrite] using h.creation
  generation := by simpa [Collection.laterWrite] using h.generation
  spec := by simpa [Collection.laterWrite] using h.spec
  labels := by simpa [Collection.laterWrite] using h.labels
  annotations := by simpa [Collection.laterWrite] using h.annotations
  status := by simp [Collection.laterWrite]

end Standing

theorem Backend.createdStored {k : Kind} {b : Backend} {now : Instant} {first made : k.Object}
    (created : (b.perform now (.create k first)).1 = .ok made) :
    made = Collection.firstWrite (b.store.version + 1) now first ∧
      (b.perform now (.create k first)).2.store.get? k (k.key first) = some made := by
  have asked : ((b.store.collection k).create (b.store.version + 1) now first).1 = .ok made := created
  have stored : (b.perform now (.create k first)).2.store.get? k (k.key first) =
      ((b.store.collection k).create (b.store.version + 1) now first).2.objects.get? (k.key first) :=
    Store.writeOwn (fun version c => c.create version now first) _
  rw [stored]
  rcases (b.store.collection k).createCases (b.store.version + 1) now first with ⟨e, refused⟩ | ⟨-, done⟩
  · rw [refused] at asked
    cases asked
  · rw [done] at asked ⊢
    cases asked
    have own : k.key (Collection.firstWrite (b.store.version + 1) now first) = k.key first := by
      simp [Kind.key, Collection.firstWrite, Metadata.key]
    refine ⟨rfl, ?_⟩
    rw [← own]
    exact Collection.putSame _ _

/-- Whatever is asked of a store after an object was made and until it is deleted, the object is
there, with the identity and the time that it was given; its generation counts the writes
of its specification from 1, in 64 bits; its specification, labels and annotations are those that
the last of these brought and its status is the one that the last write of the status
brought, or else what it was made with. -/
theorem writersApart {k : Kind} {start b : Backend} {now : Instant} {first made : k.Object}
    {log : List Told} (created : (start.perform now (.create k first)).1 = .ok made)
    (session : Session (start.perform now (.create k first)).2 log b)
    (stays : Told.mk (.delete k (k.key first)) (.ok true) ∉ log) :
    ∃ o, b.store.get? k (k.key first) = some o ∧
      Standing first made (log.filterMap (Told.respecified? k (k.key first)))
        (log.filterMap (Told.restatused? k (k.key first))) o := by
  induction session with
  | opened =>
    obtain ⟨rfl, stored⟩ := Backend.createdStored created
    exact ⟨_, stored, .created _ now first⟩
  | @called log b _ now c ih =>
    rw [List.mem_append, not_or] at stays
    obtain ⟨o, found, stands⟩ := ih stays.1
    have leaves := Backend.performOn now c found
    rw [List.filterMap_append, List.filterMap_append]
    generalize (Told.mk c (b.perform now c).1) = told at leaves stays
    generalize (b.perform now c).2.store.get? k (k.key first) = after at leaves
    cases leaves with
    | same spec status =>
      exact ⟨o, rfl, by simpa [spec, status] using stands⟩
    | respecified version spec status =>
      exact ⟨_, rfl, by simpa [spec, status] using stands.respecified version _⟩
    | restatused version spec status =>
      exact ⟨_, rfl, by simpa [spec, status] using stands.restatused version _⟩
    | deleted gone => exact absurd (List.mem_singleton.mpr gone.symm) stays.2

def Task.described (description : String) (phase : Phase) : Task :=
  let bare := Task.bare ⟨"ns", "task"⟩ "agent"
  { bare with
    spec := { bare.spec with description }
    status := { bare.status with phase := some phase } }

def rewritten : List Told × Backend :=
  let made := (Backend.empty.perform default (.create .task (Task.described "old" .pending))).2
  let started := (made.perform default (.updateStatus .task (Task.described "lost" .running))).2
  ([⟨.updateStatus .task (Task.described "lost" .running),
      (made.perform default (.updateStatus .task (Task.described "lost" .running))).1⟩,
    ⟨.update .task (Task.described "new" .failed), (started.perform default (.update .task (Task.described "new" .failed))).1⟩],
    (started.perform default (.update .task (Task.described "new" .failed))).2)

theorem rewrittenSession :
    Session (Backend.empty.perform default (.create .task (Task.described "old" .pending))).2 rewritten.1 rewritten.2 :=
  .called (.called .opened default _) default _

theorem rewrittenApart : ∃ o : Task, rewritten.2.store.get? .task ⟨"ns", "task"⟩ = some o ∧
    o.spec.description = "new" ∧ o.status.phase = some .running ∧ o.metadata.generation = 2 := by
  have created : (Backend.empty.perform default (.create .task (Task.described "old" .pending))).1 =
    .ok (Collection.firstWrite 1 default (Task.described "old" .pending) : Kind.task.Object) := rfl
  obtain ⟨o, found, stands⟩ := writersApart created rewrittenSession (by simp [rewritten])
  exact ⟨o, found, congrArg TaskSpec.description stands.spec, congrArg TaskStatus.phase stands.status,
    stands.generation⟩

end Turnstile
