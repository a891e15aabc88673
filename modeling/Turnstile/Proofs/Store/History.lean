import Turnstile.Proofs.Since
import Turnstile.Proofs.Store.Versions
/-! Histories of a store. A copy of an object can be written back only while the write
that gave it its version is the last one to its key, whatever was done in between. -/
namespace Turnstile

structure Entry where
  told : Told
  number : Option UInt64

def Backend.entry (b : Backend) (now : Instant) (c : Call) : Entry where
  told := ⟨c, (b.perform now c).1⟩
  number := if c.takesVersion then some (b.perform now c).2.store.version else none

inductive History : List Entry → Backend → Prop where
  | start {b : Backend} (empty : b.store = .empty) : History [] b
  | called {log : List Entry} {b : Backend} (past : History log b) (now : Instant) (c : Call) :
      History (log ++ [b.entry now c]) (b.perform now c).2

def issued (log : List Entry) : Nat := (log.filterMap Entry.number).length

def Entry.Writes (w : Write) (e : Entry) : Prop := e.told.wrote? = some w

def LastWrite (w : Write) : List Entry → Prop :=
  Since (Entry.Writes w) fun e => ∃ x, e.Writes x ∧ x.kind = w.kind ∧ x.key = w.key

structure Numbered (log : List Entry) (b : Backend) : Prop where
  counted : b.store.version.toNat = issued log
  given : ∀ e ∈ log, ∀ n, e.number = some n → n ≤ b.store.version
  rising : log.Pairwise fun e f => ∀ n w, e.number = some n → f.Writes w → n < w.version
  written : ∀ e ∈ log, ∀ w, e.Writes w → w.version ≤ b.store.version
  apart : ∀ e ∈ log, ∀ f ∈ log, ∀ w x, e.Writes w → f.Writes x → w.version = x.version → w = x
  last : ∀ w x, LastWrite w log → LastWrite x log → w.kind = x.kind → w.key = x.key → w = x
  stored : ∀ (k : Kind) key o, b.store.get? k key = some o → LastWrite ⟨k, key, k.version o⟩ log

section
variable {log : List Entry} {b : Backend} {now : Instant} {c : Call} {w : Write}

theorem issuedMore (e : Entry) : issued (log ++ [e]) = issued log + if e.number.isSome then 1 else 0 := by
  unfold issued
  cases number : e.number <;> simp [number]

theorem entryNumbered : (b.entry now c).number.isSome = c.takesVersion := by
  unfold Backend.entry
  cases c.takesVersion <;> rfl

theorem entryNumber {n : UInt64} (given : (b.entry now c).number = some n) :
    n = (b.perform now c).2.store.version := by
  unfold Backend.entry at given
  dsimp only at given
  split at given
  · cases given
    rfl
  · cases given

theorem Numbered.start (empty : b.store = .empty) : Numbered [] b := by
  refine ⟨by simp [empty, Store.empty, issued], by simp, .nil, by simp, by simp, ?_, ?_⟩
  · exact fun w x written => (notSinceNothing written).elim
  · intro k key o stored
    rw [empty] at stored
    cases k <;> cases stored

theorem Numbered.called (h : Numbered log b) (left : issued (log ++ [b.entry now c]) < UInt64.size) :
    Numbered (log ++ [b.entry now c]) (b.perform now c).2 := by
  rw [issuedMore, entryNumbered] at left
  have rises : (b.perform now c).2.store.version.toNat =
      b.store.version.toNat + if c.takesVersion then 1 else 0 := by
    refine Backend.versionRises fun takes => ?_
    rw [takes, ← h.counted] at left
    exact left
  have grown : b.store.version ≤ (b.perform now c).2.store.version := by
    rw [UInt64.le_iff_toNat_le]
    omega
  -- what is written now has a number beyond all that were given before
  have fresh : ∀ w, (b.entry now c).Writes w →
      w.version = (b.perform now c).2.store.version ∧ b.store.version < w.version := by
    intro w wrote
    obtain ⟨takes, version⟩ := Backend.performWrote wrote
    rw [takes] at rises
    refine ⟨version, ?_⟩
    rw [version, UInt64.lt_iff_toNat_lt, rises]
    exact Nat.lt_succ_self _
  have either : ∀ {e}, e ∈ log ++ [b.entry now c] → e ∈ log ∨ e = b.entry now c := fun inside => by
    simpa using inside
  refine ⟨?_, fun e inside n number => ?_, ?_, fun e inside w wrote => ?_,
    fun e inside f there w x wrote written same => ?_, fun w x lastW lastX kind key => ?_,
    fun k key o stored => ?_⟩
  · rw [rises, issuedMore, entryNumbered, h.counted]
  · rcases either inside with before | rfl
    · exact UInt64.le_trans (h.given e before n number) grown
    · rw [entryNumber number]
      exact UInt64.le_refl _
  · refine List.pairwise_append.mpr ⟨h.rising, List.pairwise_singleton .., ?_⟩
    intro e inside f last n w number wrote
    rw [List.mem_singleton.mp last] at wrote
    exact UInt64.lt_of_le_of_lt (h.given e inside n number) (fresh w wrote).2
  · rcases either inside with before | rfl
    · exact UInt64.le_trans (h.written e before w wrote) grown
    · rw [(fresh w wrote).1]
      exact UInt64.le_refl _
  · rcases either inside with before | rfl <;> rcases either there with earlier | rfl
    · exact h.apart e before f earlier w x wrote written same
    · have old := h.written e before w wrote
      rw [same] at old
      exact absurd (fresh x written).2 (UInt64.not_lt.mpr old)
    · have old := h.written f earlier x written
      rw [← same] at old
      exact absurd (fresh w wrote).2 (UInt64.not_lt.mpr old)
    · exact Option.some.inj (wrote.symm.trans written)
  · rcases sinceMore.mp lastW with now | ⟨before, keptW⟩ <;>
      rcases sinceMore.mp lastX with too | ⟨earlier, keptX⟩
    · exact Option.some.inj (now.symm.trans too)
    · exact absurd ⟨w, now, kind, key⟩ keptX
    · exact absurd ⟨x, too, kind.symm, key.symm⟩ keptW
    · exact h.last w x before earlier kind key
  · refine sinceMore.mpr ?_
    rcases Backend.performFound stored with ⟨before, others⟩ | wrote
    · refine .inr ⟨h.stored k key o before, ?_⟩
      rintro ⟨x, written, kind, same⟩
      exact others x written kind same
    · exact .inl wrote

theorem History.numbered (past : History log b) (left : issued log < UInt64.size) : Numbered log b := by
  induction past with
  | start empty => exact .start empty
  | @called log b _ now c ih =>
    have fewer : issued log < UInt64.size := by
      rw [issuedMore] at left
      omega
    exact (ih fewer).called left

section
variable {k : Kind} {o : k.Object}

theorem Numbered.currentExactly {current : k.Object} (h : Numbered log b)
    (found : b.store.get? k (k.key o) = some current) :
    k.version o = k.version current ↔ LastWrite (Write.of k o) log := by
  have last := h.stored k _ current found
  constructor
  · intro same
    unfold Write.of
    rw [same]
    exact last
  · intro copied
    exact congrArg Write.version (h.last _ _ copied last rfl rfl)

theorem Numbered.apartStored {j : Kind} {p q : Key} {x : j.Object} {y : k.Object} (h : Numbered log b)
    (first : b.store.get? j p = some x) (second : b.store.get? k q = some y)
    (same : j.version x = k.version y) : j = k ∧ p = q := by
  obtain ⟨e, there, wroteX⟩ := (h.stored j p x first).happened
  obtain ⟨f, inside, wroteY⟩ := (h.stored k q y second).happened
  have one : (⟨j, p, j.version x⟩ : Write) = ⟨k, q, k.version y⟩ :=
    h.apart e there f inside _ _ wroteX wroteY same
  exact ⟨congrArg Write.kind one, congrArg Write.key one⟩

theorem Numbered.revised (h : Numbered log b) (set : k.version o ≠ 0) {reply : Except StoreError k.Object}
    (asked : reply = (b.store.update k o).1 ∨ reply = (b.store.updateStatus k o).1) :
    ((∃ stored, reply = .ok stored) ↔
      (b.store.get? k (k.key o)).isSome ∧ LastWrite (Write.of k o) log) ∧
    ((b.store.get? k (k.key o)).isSome → ¬ LastWrite (Write.of k o) log →
      ∃ cause, reply = .error (.conflict k (k.key o).text cause)) := by
  obtain ⟨growth, merge, rfl⟩ : ∃ growth merge,
      reply = (b.store.write k fun version c => c.replace version growth merge o).1 := by
    rcases asked with rfl | rfl
    · exact ⟨_, _, rfl⟩
    · exact ⟨_, _, rfl⟩
  obtain ⟨goesThrough, refused⟩ := Store.replaceReply (s := b.store) growth merge o
  refine ⟨goesThrough.trans ⟨fun ⟨current, found, agreed⟩ => ?_, fun ⟨there, last⟩ => ?_⟩,
    fun there copied => ?_⟩
  · rw [found]
    exact ⟨rfl, (h.currentExactly found).mp (agreed.resolve_left set)⟩
  · obtain ⟨current, found⟩ := Option.isSome_iff_exists.mp there
    exact ⟨current, found, .inr ((h.currentExactly found).mpr last)⟩
  · obtain ⟨current, found⟩ := Option.isSome_iff_exists.mp there
    exact refused ⟨current, found, set, fun same => copied ((h.currentExactly found).mp same)⟩

end

/-- Whatever was done to a store that was empty, while its counter lasts: each write that succeeds gets a
version beyond all that were given before it, so that no two objects share one. A copy
that carries a version is written back exactly if its object is there and its write is
the last one to its key, and a stale one is told of the conflict. What fails leaves the
objects and the record of their changes as they are. -/
theorem staleWritesRefused (past : History log b) (left : issued log < UInt64.size) :
    (log.Pairwise fun e f => ∀ n w, e.number = some n → f.Writes w → n < w.version) ∧
    (∀ j k p q x y, b.store.get? j p = some x → b.store.get? k q = some y →
      j.version x = k.version y → j = k ∧ p = q) ∧
    (∀ (k : Kind) (o : k.Object), k.version o ≠ 0 → ∀ reply,
      reply = (b.store.update k o).1 ∨ reply = (b.store.updateStatus k o).1 →
      ((∃ stored, reply = .ok stored) ↔
        (b.store.get? k (k.key o)).isSome ∧ LastWrite (Write.of k o) log) ∧
      ((b.store.get? k (k.key o)).isSome → ¬ LastWrite (Write.of k o) log →
        ∃ cause, reply = .error (.conflict k (k.key o).text cause))) ∧
    (∀ now c, (b.entry now c).told.failed = true →
      ∀ k, (b.perform now c).2.store.collection k = b.store.collection k) := by
  have h := past.numbered left
  refine ⟨h.rising, fun j k p q x y => h.apartStored, fun k o set reply => h.revised set,
    fun now c failed => Backend.performFailed failed⟩

end

def remade (now : Instant) (key : Key) (b : Backend) : List Entry × Backend :=
  let make : Call := .create .task (.bare key "agent")
  let made := (b.perform now make).2
  let gone := (made.perform now (.delete .task key)).2
  ([b.entry now make, made.entry now (.delete .task key), gone.entry now make],
    (gone.perform now make).2)

theorem remadeHistory (now : Instant) (key : Key) {b : Backend} (empty : b.store = .empty) :
    History (remade now key b).1 (remade now key b).2 :=
  .called (.called (.called (.start empty) _ _) _ _) _ _

def firstCopy (key : Key) : Task :=
  { Task.bare key "agent" with metadata := { Metadata.ofKey key with resourceVersion := 1 } }

theorem remadeRefuses :
    ∃ cause, ((remade default ⟨"ns", "task"⟩ .empty).2.store.update .task
        (firstCopy ⟨"ns", "task"⟩)).1 = .error (.conflict .task "ns/task" cause) := by
  have last : ¬ LastWrite (Write.of .task (firstCopy ⟨"ns", "task"⟩))
      (remade default ⟨"ns", "task"⟩ .empty).1 := by
    intro last
    rcases sinceMore.mp (show Since _ _ ([_, _] ++ [_]) from last) with wrote | ⟨-, kept⟩
    · exact absurd wrote (by unfold Entry.Writes; decide +kernel)
    · exact kept ⟨⟨.task, ⟨"ns", "task"⟩, 2⟩, by unfold Entry.Writes; decide +kernel⟩
  exact ((staleWritesRefused (remadeHistory default ⟨"ns", "task"⟩ rfl) (by decide +kernel)).2.2.1
    .task _ (by decide +kernel) _ (.inl rfl)).2 (by decide +kernel) last

end Turnstile
