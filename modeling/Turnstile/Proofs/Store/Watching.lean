import Mathlib.Data.List.Forall2
import Turnstile.Proofs.Changes
import Turnstile.Proofs.Webhook.Scope
/-! Watching a collection. Each write or deletion that succeeds makes one event, with the
object as it is stored or was, and no other call makes any. So who applies the events in their
order to the objects that were there at the start has the objects that are there at the end. -/
namespace Turnstile

def Event.apply {k : Kind} (objects : SortedMap Key k.Object) : Event k → SortedMap Key k.Object
  | .applied o => objects.insert (k.key o) o
  | .deleted o => objects.erase (k.key o)

def replay {k : Kind} (objects : SortedMap Key k.Object) (events : List (Event k)) :
    SortedMap Key k.Object :=
  events.foldl Event.apply objects

def Told.changes (k : Kind) : Told → Bool
  | ⟨.create j _, reply⟩ | ⟨.update j _, reply⟩ | ⟨.updateStatus j _, reply⟩ =>
    j == k && reply.toOption.isSome
  | ⟨.delete j _, reply⟩ => j == k && reply.toOption == some true
  | _ => false

structure Deed where
  found : Store
  told : Told

inductive Deed.Makes {k : Kind} : Deed → Event k → Prop where
  | created {s : Store} {o stored : k.Object} : Makes ⟨s, .create k o, .ok stored⟩ (.applied stored)
  | updated {s : Store} {o stored : k.Object} : Makes ⟨s, .update k o, .ok stored⟩ (.applied stored)
  | restatused {s : Store} {o stored : k.Object} :
    Makes ⟨s, .updateStatus k o, .ok stored⟩ (.applied stored)
  | deleted {s : Store} {key : Key} {o : k.Object} (stood : s.get? k key = some o) :
    Makes ⟨s, .delete k key, .ok true⟩ (.deleted o)

/-- A watcher that subscribed at the start and hears events as it comes to it, while calls are
made. One that lags behind hears that instead, and is then no longer described. -/
inductive Watched (k : Kind) (start : Backend) : List Deed → Backend → Nat → List (Event k) → Prop where
  | subscribed : Watched k start [] start (start.store.collection k).events.size []
  | called {log : List Deed} {b : Backend} {seen : Nat} {heard : List (Event k)}
      (past : Watched k start log b seen heard) (now : Instant) (c : Call) :
      Watched k start (log ++ [⟨b.store, c, (b.perform now c).1⟩]) (b.perform now c).2 seen heard
  | heard {log : List Deed} {b : Backend} {seen later : Nat} {heard : List (Event k)} {e : Event k}
      (past : Watched k start log b seen heard)
      (next : (b.store.collection k).notice? seen = some (.event e, later)) :
      Watched k start log b later (heard ++ [e])

inductive Collection.Answers {k : Kind} (a : Collection k) (d : Deed) : Collection k → Prop where
  | silent (kept : d.told.changes k = false) : Answers a d a
  | told {b : Collection k} {e : Event k} (change : d.told.changes k = true) (makes : d.Makes e)
      (record : b.events = a.events.push e) (objects : b.objects = e.apply a.objects) : Answers a d b

theorem Store.Outcome.answers {s : Store} {j : Kind} {r : Except StoreError j.Object × Store} {d : Deed}
    (outcome : s.Outcome j r) (changes : ∀ k, d.told.changes k = (j == k && r.1.toOption.isSome))
    (makes : ∀ o, r.1 = .ok o → d.Makes (.applied o)) (k : Kind) :
    (s.collection k).Answers d (r.2.collection k) := by
  cases outcome with
  | refused kept =>
    dsimp only
    rw [kept k]
    exact .silent (by rw [changes]; exact Bool.and_false _)
  | stored version put others =>
    dsimp only
    by_cases own : j = k
    · subst own
      rw [put]
      exact .told (by rw [changes]; simp [Except.toOption]) (makes _ rfl) rfl rfl
    · rw [others k (Ne.symm own)]
      exact .silent (by rw [changes]; simp [own])

theorem Store.deleteAnswers (s : Store) (j : Kind) (key : Key) (k : Kind) :
    (s.collection k).Answers ⟨s, .delete j key, .ok (s.delete j key).1⟩
      ((s.delete j key).2.collection k) := by
  unfold Store.delete Collection.delete
  cases stood : (s.collection j).objects.get? key with
  | none =>
    dsimp only
    rw [sameCollection rfl]
    exact .silent (by simp [Told.changes, Except.toOption])
  | some o =>
    dsimp only
    by_cases own : j = k
    · subst own
      rw [collectionSame]
      refine .told (by simp [Told.changes, Except.toOption]) (.deleted stood) rfl ?_
      rw [Event.apply, (s.collection j).keyed stood]
      rfl
    · rw [collectionOther _ _ (Ne.symm own)]
      exact .silent (by simp [Told.changes, own])

theorem Backend.performAnswers (now : Instant) (c : Call) (b : Backend) (k : Kind) :
    (b.store.collection k).Answers ⟨b.store, c, (b.perform now c).1⟩
      ((b.perform now c).2.store.collection k) := by
  cases c with
  | get | list | createWorkload | workloadStatus | deleteWorkload => exact .silent rfl
  | create j o =>
    refine (Store.createOutcome now o).answers (fun _ => rfl) (fun stored done => ?_) k
    exact (congrArg (fun r => Deed.Makes ⟨b.store, .create j o, r⟩ _) done).mpr .created
  | update j o =>
    refine (Store.updateOutcome o).answers (fun _ => rfl) (fun stored done => ?_) k
    exact (congrArg (fun r => Deed.Makes ⟨b.store, .update j o, r⟩ _) done).mpr .updated
  | updateStatus j o =>
    refine (Store.updateStatusOutcome o).answers (fun _ => rfl) (fun stored done => ?_) k
    exact (congrArg (fun r => Deed.Makes ⟨b.store, .updateStatus j o, r⟩ _) done).mpr .restatused
  | delete j key => exact b.store.deleteAnswers j key k

structure Recorded (k : Kind) (start : Backend) (log : List Deed) (b : Backend) (since : List (Event k)) :
    Prop where
  record : (b.store.collection k).events.toList = (start.store.collection k).events.toList ++ since
  told : List.Forall₂ Deed.Makes (log.filter fun d => d.told.changes k) since
  objects : replay (start.store.collection k).objects since = (b.store.collection k).objects

namespace Recorded
variable {k : Kind} {start b : Backend} {log : List Deed} {since : List (Event k)}

theorem nothing (start : Backend) : Recorded k start [] start [] :=
  ⟨(List.append_nil _).symm, .nil, rfl⟩

theorem called (h : Recorded k start log b since) (now : Instant) (c : Call) :
    ∃ more, Recorded k start (log ++ [⟨b.store, c, (b.perform now c).1⟩]) (b.perform now c).2
      (since ++ more) := by
  have answers := b.performAnswers now c k
  generalize (⟨b.store, c, (b.perform now c).1⟩ : Deed) = d at answers
  generalize reached : (b.perform now c).2.store.collection k = after at answers
  cases answers with
  | silent kept =>
    refine ⟨[], ?_, ?_, ?_⟩
    · rw [reached, h.record, List.append_nil]
    · rw [List.filter_append, List.append_nil]
      simpa [kept] using h.told
    · rw [reached, List.append_nil]
      exact h.objects
  | @told _ e change makes record objects =>
    refine ⟨[e], ?_, ?_, ?_⟩
    · rw [reached, record, Array.toList_push, h.record, List.append_assoc]
    · rw [List.filter_append]
      refine List.rel_append h.told ?_
      simpa [change] using makes
    · rw [reached, objects, ← h.objects, replay, replay, List.foldl_append]
      rfl

theorem next {heard unheard : List (Event k)} (h : Recorded k start log b (heard ++ unheard)) :
    (b.store.collection k).events[(start.store.collection k).events.size + heard.length]? =
      unheard.head? := by
  rw [← Array.getElem?_toList, h.record, ← List.append_assoc, List.getElem?_append_right (by simp),
    List.head?_eq_getElem?]
  simp

end Recorded

namespace Collection
variable {k : Kind} {c : Collection k} {seen later : Nat}

theorem noticeEvent {e : Event k} (next : c.notice? seen = some (.event e, later)) :
    c.events[seen]? = some e ∧ later = seen + 1 := by
  unfold notice? at next
  split at next
  · cases next
  · obtain ⟨found, event, same⟩ := Option.map_eq_some_iff.mp next
    cases same
    exact ⟨event, rfl⟩

theorem noticeNone (none : c.notice? seen = none) : c.events[seen]? = .none := by
  unfold notice? at none
  split at none
  · cases none
  · exact Option.map_eq_none_iff.mp none

theorem noticeNear (near : c.events.size ≤ seen + retained) :
    c.notice? seen = (c.events[seen]?).map fun e => (.event e, seen + 1) :=
  if_neg (Nat.not_lt.mpr near)

theorem listed {selector : Selector} {o : k.Object} :
    o ∈ c.list selector ↔ c.objects.get? (k.key o) = some o ∧
      (∀ ns, selector.ns = some ns → (k.metadata o).ns = ns) ∧
      ∀ label value, selector.labels.get? label = some value →
        (k.metadata o).labels.get? label = some value := by
  have stored : o ∈ c.objects.values ↔ c.objects.get? (k.key o) = some o := by
    rw [SortedMap.memValues]
    refine ⟨fun ⟨key, found⟩ => ?_, fun found => ⟨_, found⟩⟩
    rw [c.keyed found]
    exact found
  have home : selector.ns.all (· == (k.metadata o).ns) = true ↔
      ∀ ns, selector.ns = some ns → (k.metadata o).ns = ns := by
    rw [Option.all_eq_true]
    exact forall_congr' fun ns => imp_congr_right fun _ => beq_iff_eq.trans eq_comm
  rw [list, List.mem_filter, stored, Selector.matchesMetadata, Bool.and_eq_true, home,
    Metadata.matchesIff]

theorem listSorted (c : Collection k) (selector : Selector) :
    ((c.list selector).map k.key).Pairwise fun p q => compare p q = .lt := by
  have sorted : c.objects.values.Pairwise fun o p => compare (k.key o) (k.key p) = .lt := by
    refine List.pairwise_map.mpr (c.objects.increasing.imp_of_mem fun {e f} first second below => ?_)
    rwa [c.keyed (SortedMap.memEntries.mp first), c.keyed (SortedMap.memEntries.mp second)]
  exact List.pairwise_map.mpr (sorted.filter _)

theorem listApart (c : Collection k) (selector : Selector) : ((c.list selector).map k.key).Nodup :=
  c.keysDistinct.sublist (List.filter_sublist.map _)

end Collection

namespace Watched
variable {k : Kind} {start b : Backend} {log : List Deed} {seen : Nat} {heard : List (Event k)}

theorem recorded (w : Watched k start log b seen heard) :
    ∃ unheard, Recorded k start log b (heard ++ unheard) ∧
      seen = (start.store.collection k).events.size + heard.length := by
  induction w with
  | subscribed => exact ⟨[], Recorded.nothing _, rfl⟩
  | called past now c ih =>
    obtain ⟨unheard, record, place⟩ := ih
    obtain ⟨more, after⟩ := record.called now c
    exact ⟨unheard ++ more, by rwa [List.append_assoc] at after, place⟩
  | heard past next ih =>
    obtain ⟨unheard, record, rfl⟩ := ih
    obtain ⟨event, rfl⟩ := Collection.noticeEvent next
    rw [record.next] at event
    obtain ⟨rest, rfl⟩ := List.head?_eq_some_iff.mp event
    exact ⟨rest, by simpa using record, by simp [Nat.add_assoc]⟩

theorem heardAll (w : Watched k start log b seen heard)
    (none : (b.store.collection k).notice? seen = none) : Recorded k start log b heard := by
  obtain ⟨unheard, record, rfl⟩ := w.recorded
  have last := Collection.noticeNone none
  rw [record.next] at last
  rw [List.head?_eq_none_iff.mp last, List.append_nil] at record
  exact record

theorem catchesUp (w : Watched k start log b seen heard)
    (near : (b.store.collection k).events.size ≤ seen + Collection.retained) :
    ∃ later rest, Watched k start log b later (heard ++ rest) ∧
      (b.store.collection k).notice? later = none := by
  obtain ⟨unheard, record, place⟩ := w.recorded
  induction unheard generalizing seen heard with
  | nil =>
    refine ⟨seen, [], by rwa [List.append_nil], ?_⟩
    rw [Collection.noticeNear near, place, record.next]
    rfl
  | cons e rest ih =>
    have next : (b.store.collection k).notice? seen = some (.event e, seen + 1) := by
      rw [Collection.noticeNear near, place, record.next]
      rfl
    obtain ⟨later, more, ends, none⟩ := ih (w.heard next) (by omega)
      (by simpa using record) (by simp [place, Nat.add_assoc])
    exact ⟨later, e :: more, by simpa using ends, none⟩

end Watched

/-- Whatever is done to a store from when a watcher subscribed, if the watcher never lags: when it
has come to the end it heard one event for each write and deletion that succeeded and no
other, and what they make of the objects at the start is what is stored. It can come to the
end at any time that it is not too far behind. A list has just the objects that match, in
the order of their keys. -/
theorem watchedFaithfully {k : Kind} {start b : Backend} {log : List Deed} {seen : Nat}
    {heard : List (Event k)} (w : Watched k start log b seen heard) :
    ((b.store.collection k).notice? seen = none →
      List.Forall₂ Deed.Makes (log.filter fun d => d.told.changes k) heard ∧
      replay (start.store.collection k).objects heard = (b.store.collection k).objects) ∧
    ((b.store.collection k).events.size ≤ seen + Collection.retained →
      ∃ later rest, Watched k start log b later (heard ++ rest) ∧
        (b.store.collection k).notice? later = none) ∧
    ∀ selector,
      (∀ o, o ∈ b.store.list k selector ↔ b.store.get? k (k.key o) = some o ∧
        (∀ ns, selector.ns = some ns → (k.metadata o).ns = ns) ∧
        ∀ label value, selector.labels.get? label = some value →
          (k.metadata o).labels.get? label = some value) ∧
      ((b.store.list k selector).map k.key).Pairwise (fun p q => compare p q = .lt) ∧
      ((b.store.list k selector).map k.key).Nodup := by
  refine ⟨fun none => ?_, w.catchesUp, fun selector => ?_⟩
  · have record := w.heardAll none
    exact ⟨record.told, record.objects⟩
  · exact ⟨fun o => Collection.listed, Collection.listSorted _ _, Collection.listApart _ _⟩

def madeTwice (key : Key) (b : Backend) : List Deed × Backend :=
  let make : Call := .create .task (.bare key "agent")
  let made := (b.perform default make).2
  let again := (made.perform default make).2
  ([⟨b.store, make, (b.perform default make).1⟩, ⟨made.store, make, (made.perform default make).1⟩,
      ⟨again.store, .delete .task key, (again.perform default (.delete .task key)).1⟩],
    (again.perform default (.delete .task key)).2)

theorem madeTwiceWatched (key : Key) (b : Backend) :
    Watched .task b (madeTwice key b).1 (madeTwice key b).2 b.store.tasks.events.size [] :=
  .called (.called (.called .subscribed default _) default _) default _

theorem twoHeard : ∃ seen heard,
    Watched .task .empty (madeTwice ⟨"ns", "task"⟩ .empty).1 (madeTwice ⟨"ns", "task"⟩ .empty).2
      seen heard ∧
    heard.length = 2 ∧ replay .empty heard = (madeTwice ⟨"ns", "task"⟩ .empty).2.store.tasks.objects := by
  have near : (madeTwice ⟨"ns", "task"⟩ .empty).2.store.tasks.events.size ≤ 0 + Collection.retained := by
    decide +kernel
  obtain ⟨later, heard, ends, none⟩ :=
    (watchedFaithfully (madeTwiceWatched ⟨"ns", "task"⟩ .empty)).2.1 near
  obtain ⟨told, objects⟩ := (watchedFaithfully ends).1 none
  exact ⟨later, heard, ends, told.length_eq.symm.trans (by decide +kernel), objects⟩

end Turnstile
