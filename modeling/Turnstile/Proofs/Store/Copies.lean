import Turnstile.Proofs.Store.Versions
/-! Copies of stored objects. While the counter lasts no version is given twice, so what is stored
under the key of a copy with the copy's version is the copy itself, whatever came in between; and a
copy that is written back with its version lands on the object that it was made of. -/
namespace Turnstile

namespace Store

/-- A copy of an object: what is stored under its key with its version is the object itself. -/
structure Copied (s : Store) (k : Kind) (o : k.Object) : Prop where
  numbered : k.version o ≠ 0
  given : k.version o ≤ s.version
  current : ∀ stored, s.get? k (k.key o) = some stored → k.version stored = k.version o → stored = o

def Copies (s : Store) : Prop := ∀ k key o, s.get? k key = some o → s.Copied k o

theorem emptyCopies {s : Store} (empty : s = .empty) : s.Copies := by
  intro k key o stored
  rw [empty] at stored
  cases k <;> cases stored

structure Puts (before : Store) (k : Kind) (o : k.Object) (after : Store) : Prop where
  own : after.collection k = (before.collection k).put o
  others : ∀ j, j ≠ k → after.collection j = before.collection j

def Idle (before after : Store) : Prop := ∀ k, after.collection k = before.collection k

theorem Idle.same {before after : Store} (idle : before.Idle after) (k : Kind) (key : Key) :
    after.get? k key = before.get? k key := by
  unfold get?
  rw [idle k]

theorem writtenBack {s : Store} {k : Kind} {copy o stored : k.Object} (copied : s.Copied k copy)
    (key : k.key o = k.key copy) (version : k.version o = k.version copy)
    (growth : UInt64) (merge : (stored incoming : k.Object) → k.Object)
    (done : (s.write k fun version c => c.replace version growth merge o).1 = .ok stored) :
    s.get? k (k.key copy) = some copy ∧
      stored = Collection.laterWrite (s.version + 1) growth copy (merge copy o) ∧
      s.Puts k stored (s.write k fun version c => c.replace version growth merge o).2 := by
  have asked : ((s.collection k).replace (s.version + 1) growth merge o).1 = .ok stored := done
  have own : (s.write k fun version c => c.replace version growth merge o).2.collection k =
    ((s.collection k).replace (s.version + 1) growth merge o).2 := collectionSame _ _ _
  have others : ∀ j, j ≠ k →
      (s.write k fun version c => c.replace version growth merge o).2.collection j = s.collection j :=
    fun j other => (collectionOther _ _ other).trans (numberedCollection s _ j)
  rcases (s.collection k).replaceCases (s.version + 1) growth merge o with
    ⟨e, refused⟩ | ⟨current, found, agreed, written⟩
  · rw [refused] at asked
    cases asked
  · rw [written] at asked own
    cases asked
    rw [key] at found
    rw [version] at agreed
    cases copied.current current found (agreed.resolve_left copied.numbered).symm
    exact ⟨found, rfl, own, others⟩

end Store

namespace Backend
variable {b : Backend} {now : Instant} {c : Call} {k : Kind} {key : Key} {o : k.Object}

/-- There is room for one more version. -/
def Unspent (b : Backend) : Prop := b.store.version.toNat + 1 < UInt64.size

instance : Decidable b.Unspent := inferInstanceAs (Decidable (_ < _))

theorem unspentRises (now : Instant) (c : Call) (unspent : b.Unspent) :
    b.store.version ≤ (b.perform now c).2.store.version ∧
    (c.takesVersion = true → b.store.version < (b.perform now c).2.store.version) := by
  have rises : (b.perform now c).2.store.version.toNat =
      b.store.version.toNat + if c.takesVersion then 1 else 0 := versionRises fun _ => unspent
  refine ⟨?_, fun takes => ?_⟩
  · rw [UInt64.le_iff_toNat_le]
    omega
  · rw [UInt64.lt_iff_toNat_lt, rises, takes]
    exact Nat.lt_succ_self _

theorem performSpends (now : Instant) (c : Call) (unspent : b.Unspent) :
    (b.perform now c).2.store.version.toNat ≤ b.store.version.toNat + 1 := by
  have rises : (b.perform now c).2.store.version.toNat =
      b.store.version.toNat + if c.takesVersion then 1 else 0 := versionRises fun _ => unspent
  rw [rises]
  split
  · exact Nat.le_refl _
  · exact Nat.le_succ _

theorem wroteNewer {w : Write} (unspent : b.Unspent)
    (wrote : (Told.mk c (b.perform now c).1).wrote? = some w) : b.store.version < w.version := by
  obtain ⟨takes, number⟩ := performWrote wrote
  rw [number]
  exact (unspentRises now c unspent).2 takes

theorem unmoved (copied : b.store.Copied k o) (unspent : b.Unspent)
    (after : (b.perform now c).2.store.get? k (k.key o) = some o) : b.store.get? k (k.key o) = some o := by
  rcases performFound after with ⟨before, -⟩ | wrote
  · exact before
  · have newer : b.store.version < k.version o := wroteNewer unspent wrote
    exact absurd copied.given (UInt64.not_le.mpr newer)

theorem copiedLater (copied : b.store.Copied k o) (unspent : b.Unspent) :
    (b.perform now c).2.store.Copied k o := by
  obtain ⟨grown, -⟩ := unspentRises now c unspent
  refine ⟨copied.numbered, UInt64.le_trans copied.given grown, fun stored after same => ?_⟩
  rcases performFound after with ⟨before, -⟩ | wrote
  · exact copied.current stored before same
  · have newer : b.store.version < k.version stored := wroteNewer unspent wrote
    rw [same] at newer
    exact absurd copied.given (UInt64.not_le.mpr newer)

theorem storedCopied (all : ∀ key o, b.store.get? k key = some o → b.store.Copied k o)
    (unspent : b.Unspent) (after : (b.perform now c).2.store.get? k key = some o) :
    (b.perform now c).2.store.Copied k o := by
  rcases performFound after with ⟨before, -⟩ | wrote
  · exact copiedLater (all key o before) unspent
  · have newer : b.store.version < k.version o := wroteNewer unspent wrote
    have same : k.version o = (b.perform now c).2.store.version := (performWrote wrote).2
    refine ⟨fun zero => ?_, by rw [same]; exact UInt64.le_refl _, fun stored found _ => ?_⟩
    · rw [zero] at newer
      exact absurd newer (UInt64.not_lt.mpr UInt64.zero_le)
    · have own : k.key o = key := ((b.perform now c).2.store.collection k).keyed after
      rw [own] at found
      exact Option.some.inj (found.symm.trans after)

theorem copiesLater (copies : b.store.Copies) (unspent : b.Unspent) : (b.perform now c).2.store.Copies :=
  fun k _ _ => storedCopied (copies k) unspent

end Backend
end Turnstile
