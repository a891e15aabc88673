import Turnstile.Proofs.Procedure
/-! Versions of stored objects. A write takes the next number of one counter, also
when it then fails, and the object that it stores carries that number. -/
namespace Turnstile

def Call.takesVersion : Call → Bool
  | .create .. | .update .. | .updateStatus .. => true
  | _ => false

structure Write where
  kind : Kind
  key : Key
  version : UInt64
  deriving DecidableEq, Repr

def Write.of (k : Kind) (o : k.Object) : Write := ⟨k, k.key o, k.version o⟩

def Told.wrote? : Told → Option Write
  | ⟨.create k _, reply⟩ | ⟨.update k _, reply⟩ | ⟨.updateStatus k _, reply⟩ =>
    reply.toOption.map (Write.of k)
  | _ => none

def Told.failed : Told → Bool
  | ⟨.create .., reply⟩ | ⟨.update .., reply⟩ | ⟨.updateStatus .., reply⟩ => reply.toOption.isNone
  | ⟨.delete .., reply⟩ => reply.toOption != some true
  | _ => false

namespace Store
variable {s : Store} {k j : Kind}

inductive Outcome (s : Store) (k : Kind) : Except StoreError k.Object × Store → Prop where
  | refused {e : StoreError} {t : Store} (kept : ∀ j, t.collection j = s.collection j) :
      Outcome s k (.error e, t)
  | stored {o : k.Object} {t : Store} (version : k.version o = s.version + 1)
      (put : t.collection k = (s.collection k).put o)
      (others : ∀ j, j ≠ k → t.collection j = s.collection j) : Outcome s k (.ok o, t)

theorem numberedCollection (s : Store) (version : UInt64) (j : Kind) :
    ({ s with version := version } : Store).collection j = s.collection j := by
  cases j <;> rfl

theorem sameCollection {c : Collection k} (same : c = s.collection k) (j : Kind) :
    (s.withCollection k c).collection j = s.collection j := by
  by_cases own : j = k
  · subst own
    rw [collectionSame, same]
  · exact collectionOther _ _ own

theorem writeOutcome {f : UInt64 → Collection k → Except StoreError k.Object × Collection k}
    (ends : ∀ version c, (∃ e, f version c = (.error e, c)) ∨
      ∃ o, k.version o = version ∧ f version c = (.ok o, c.put o)) : Outcome s k (s.write k f) := by
  unfold write
  dsimp only
  rcases ends (s.version + 1) (s.collection k) with ⟨e, failed⟩ | ⟨o, version, done⟩
  · rw [failed]
    refine .refused fun j => ?_
    exact (sameCollection (numberedCollection s _ k).symm j).trans (numberedCollection s _ j)
  · rw [done]
    refine .stored version (collectionSame _ _ _) fun j other => ?_
    rw [collectionOther _ _ other, numberedCollection]

theorem createOutcome (now : Instant) (o : k.Object) : Outcome s k (s.create now k o) := by
  refine writeOutcome fun version c => (c.createCases version now o).imp_right fun ⟨_, done⟩ => ?_
  exact ⟨_, by simp [Kind.version, Collection.firstWrite], done⟩

theorem replaceOutcome (growth : UInt64) (merge : (stored incoming : k.Object) → k.Object)
    (o : k.Object) : Outcome s k (s.write k fun version c => c.replace version growth merge o) := by
  refine writeOutcome fun version c => ?_
  refine (c.replaceCases version growth merge o).imp_right fun ⟨current, _, _, done⟩ => ?_
  exact ⟨_, by simp [Kind.version, Collection.laterWrite], done⟩

theorem replaceReply (growth : UInt64) (merge : (stored incoming : k.Object) → k.Object) (o : k.Object) :
    ((∃ stored, (s.write k fun version c => c.replace version growth merge o).1 = .ok stored) ↔
      ∃ current, s.get? k (k.key o) = some current ∧
        (k.version o = 0 ∨ k.version o = k.version current)) ∧
    ((∃ current, s.get? k (k.key o) = some current ∧ k.version o ≠ 0 ∧
        k.version o ≠ k.version current) → ∃ cause,
      (s.write k fun version c => c.replace version growth merge o).1 =
        .error (.conflict k (k.key o).text cause)) := by
  have asked : (s.write k fun version c => c.replace version growth merge o).1 =
    ((s.collection k).replace (s.version + 1) growth merge o).1 := rfl
  rw [asked]
  refine ⟨⟨fun ⟨stored, done⟩ => ?_, fun ⟨current, found, agreed⟩ => ?_⟩, ?_⟩
  · rcases (s.collection k).replaceCases (s.version + 1) growth merge o with
      ⟨e, refused⟩ | ⟨current, found, agreed, -⟩
    · rw [refused] at done
      cases done
    · exact ⟨current, found, agreed⟩
  · rw [Collection.replaceAgreed _ _ _ found agreed]
    exact ⟨_, rfl⟩
  · rintro ⟨current, found, set, stale⟩
    obtain ⟨cause, refused⟩ := Collection.replaceStale (s.version + 1) growth merge found set stale
    rw [refused]
    exact ⟨cause, rfl⟩

theorem updateOutcome (o : k.Object) : Outcome s k (s.update k o) := replaceOutcome _ _ _

theorem updateStatusOutcome (o : k.Object) : Outcome s k (s.updateStatus k o) := replaceOutcome _ _ _

theorem Outcome.found {r : Except StoreError k.Object × Store} {key : Key} {o : j.Object} {told : Told}
    (outcome : Outcome s k r) (wrote : told.wrote? = r.1.toOption.map (Write.of k))
    (after : r.2.get? j key = some o) :
    (s.get? j key = some o ∧ ∀ w, told.wrote? = some w → w.kind = j → w.key ≠ key) ∨
    told.wrote? = some ⟨j, key, j.version o⟩ := by
  rw [wrote]
  cases outcome with
  | refused kept =>
    unfold get? at after
    rw [kept j] at after
    exact .inl ⟨after, nofun⟩
  | @stored written t _ put others =>
    unfold get? at after
    dsimp only at after
    by_cases same : j = k
    · subst same
      rw [put] at after
      rcases Collection.putFound after with ⟨rfl, rfl⟩ | ⟨other, before⟩
      · exact .inr rfl
      · refine .inl ⟨before, fun w done _ own => other ?_⟩
        cases done
        exact own.symm
    · rw [others j same] at after
      refine .inl ⟨after, fun w done own => absurd ?_ same⟩
      cases done
      exact own.symm

theorem deleteCases (s : Store) (k : Kind) (key : Key) :
    ((s.delete k key).1 = false ∧ ∀ j, (s.delete k key).2.collection j = s.collection j) ∨
    ∃ o, (s.delete k key).1 = true ∧ (s.delete k key).2.collection k = (s.collection k).drop key o ∧
      ∀ j, j ≠ k → (s.delete k key).2.collection j = s.collection j := by
  unfold delete Collection.delete
  cases (s.collection k).objects.get? key with
  | none => exact .inl ⟨rfl, sameCollection rfl⟩
  | some o => exact .inr ⟨o, rfl, collectionSame _ _ _, fun j other => collectionOther _ _ other⟩

theorem deleteFound {key gone : Key} {o : j.Object}
    (after : (s.delete k gone).2.get? j key = some o) : s.get? j key = some o := by
  unfold get? at after
  rcases deleteCases s k gone with ⟨-, kept⟩ | ⟨old, -, dropped, others⟩
  · rw [kept j] at after
    exact after
  · by_cases same : j = k
    · subst same
      rw [dropped] at after
      exact (Collection.dropFound after).2
    · rw [others j same] at after
      exact after

end Store

namespace Backend
variable {b : Backend} {now : Instant} {c : Call} {k : Kind} {key : Key} {o : k.Object}

theorem performVersion : (b.perform now c).2.store.version =
    if c.takesVersion then b.store.version + 1 else b.store.version := by
  cases c with
  | create k | update k | updateStatus k | delete k => cases k <;> rfl
  | get | list | createWorkload | workloadStatus | deleteWorkload => rfl

theorem versionRises (left : c.takesVersion = true → b.store.version.toNat + 1 < UInt64.size) :
    (b.perform now c).2.store.version.toNat =
      b.store.version.toNat + if c.takesVersion then 1 else 0 := by
  rw [performVersion]
  cases takes : c.takesVersion with
  | false => rfl
  | true =>
    have room := left takes
    simp only [if_true, UInt64.toNat_add]
    exact Nat.mod_eq_of_lt room

theorem performFound (after : (b.perform now c).2.store.get? k key = some o) :
    (b.store.get? k key = some o ∧
      ∀ w, (Told.mk c (b.perform now c).1).wrote? = some w → w.kind = k → w.key ≠ key) ∨
    (Told.mk c (b.perform now c).1).wrote? = some ⟨k, key, k.version o⟩ := by
  cases c with
  | create j incoming => exact (b.store.createOutcome now incoming).found rfl after
  | update j incoming => exact (b.store.updateOutcome incoming).found rfl after
  | updateStatus j incoming =>
    exact (b.store.updateStatusOutcome incoming).found rfl after
  | delete j gone => exact .inl ⟨Store.deleteFound after, nofun⟩
  | get | list | createWorkload | workloadStatus | deleteWorkload => exact .inl ⟨after, nofun⟩

theorem performWrote {w : Write} (wrote : (Told.mk c (b.perform now c).1).wrote? = some w) :
    c.takesVersion = true ∧ w.version = (b.perform now c).2.store.version := by
  rw [performVersion]
  have given {k : Kind} {r : Except StoreError k.Object × Store} (outcome : b.store.Outcome k r)
      (done : r.1.toOption.map (Write.of k) = some w) : w.version = b.store.version + 1 := by
    cases outcome with
    | refused => cases done
    | stored version =>
      cases done
      exact version
  cases c with
  | create k o => exact ⟨rfl, given (b.store.createOutcome now o) wrote⟩
  | update k o => exact ⟨rfl, given (b.store.updateOutcome o) wrote⟩
  | updateStatus k o =>
    exact ⟨rfl, given (b.store.updateStatusOutcome o) wrote⟩
  | get | list | delete | createWorkload | workloadStatus | deleteWorkload => cases wrote

theorem performFailed (failed : (Told.mk c (b.perform now c).1).failed = true) (j : Kind) :
    (b.perform now c).2.store.collection j = b.store.collection j := by
  have kept {k : Kind} {r : Except StoreError k.Object × Store} (outcome : b.store.Outcome k r)
      (refused : r.1.toOption.isNone = true) : r.2.collection j = b.store.collection j := by
    cases outcome with
    | refused kept => exact kept j
    | stored => cases refused
  cases c with
  | create k o => exact kept (b.store.createOutcome now o) failed
  | update k o => exact kept (b.store.updateOutcome o) failed
  | updateStatus k o => exact kept (b.store.updateStatusOutcome o) failed
  | delete k key =>
    rcases Store.deleteCases b.store k key with ⟨-, kept⟩ | ⟨o, gone, -⟩
    · exact kept j
    · have done : ((some (b.store.delete k key).1 : Option Bool) != some true) = true := failed
      rw [gone] at done
      cases done
  | get | list | createWorkload | workloadStatus | deleteWorkload => rfl

end Backend
end Turnstile
