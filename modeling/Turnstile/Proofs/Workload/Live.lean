import Turnstile.Workload
import Turnstile.Proofs.SortedMap
/-! Live workloads. Only a creation makes one, of its own key, and the keys of all
runs of all tasks differ. -/
namespace Turnstile

def Key.run (task : Key) (attempt : UInt32) : Key := ⟨task.ns, WorkloadSpec.nameFor task attempt⟩

theorem dashSplit {front other digits rest : List Char} (plain : '-' ∉ digits) (bare : '-' ∉ rest)
    (same : front ++ '-' :: digits = other ++ '-' :: rest) : front = other ∧ digits = rest := by
  rcases List.append_eq_append_iff.mp same with ⟨between, rfl, tail⟩ | ⟨between, rfl, tail⟩
  · cases between with
    | nil => exact ⟨by simp, (List.cons.inj tail).2⟩
    | cons c cs =>
      rw [(List.cons.inj tail).2] at plain
      exact absurd (by simp) plain
  · cases between with
    | nil => exact ⟨by simp, (List.cons.inj tail).2.symm⟩
    | cons c cs =>
      rw [(List.cons.inj tail).2] at bare
      exact absurd (by simp) bare

theorem reprPlain (n : Nat) : '-' ∉ n.repr.toList := by
  intro inside
  rw [Nat.toList_repr] at inside
  exact absurd (Nat.isDigit_of_mem_toDigits (by decide) (by decide) inside) (by decide)

theorem reprSame {m n : Nat} (same : m.repr.toList = n.repr.toList) : m = n := by
  rw [Nat.toList_repr, Nat.toList_repr] at same
  have read := congrArg (fun digits => Nat.ofDigitChars 10 digits 0) same
  simpa using read

theorem Key.runSame {task other : Key} {m n : UInt32} (same : task.run m = other.run n) :
    task = other ∧ m = n := by
  obtain ⟨ns, name⟩ := Key.mk.inj same
  have chars := congrArg String.toList name
  simp only [WorkloadSpec.nameFor, toString, String.toList_append] at chars
  rw [List.append_assoc, List.append_assoc] at chars
  obtain ⟨front, digits⟩ := dashSplit (reprPlain _) (reprPlain _) chars
  refine ⟨?_, ?_⟩
  · cases task
    cases other
    cases ns
    cases String.toList_inj.mp front
    rfl
  · exact UInt32.toNat_inj.mp (reprSame digits)

namespace Workloads
variable {w : Workloads} {now : Instant} {key run : Key}

def Live (w : Workloads) (run : Key) : Prop :=
  ∃ record, w.records.get? run = some record ∧ record.status.state.isLive = true

theorem liveIff : w.Live run ↔ run ∈ w.running := by
  unfold Live running
  constructor
  · rintro ⟨record, found, live⟩
    exact List.mem_map.mpr ⟨(run, record), List.mem_filter.mpr ⟨SortedMap.memEntries.mpr found, live⟩, rfl⟩
  · intro inside
    obtain ⟨⟨key, record⟩, kept, rfl⟩ := List.mem_map.mp inside
    obtain ⟨there, live⟩ := List.mem_filter.mp kept
    exact ⟨record, SortedMap.memEntries.mp there, live⟩

theorem insertLive {record : Workload}
    (live : Live { w with records := w.records.insert key record } run) :
    (run = key ∧ record.status.state.isLive = true) ∨ (run ≠ key ∧ w.Live run) := by
  obtain ⟨found, there, alive⟩ := live
  by_cases same : run = key
  · subst same
    rw [SortedMap.getInsertSame] at there
    cases there
    exact .inl ⟨rfl, alive⟩
  · rw [SortedMap.getInsertOther _ _ same] at there
    exact .inr ⟨same, found, there, alive⟩

theorem createLive {spec : WorkloadSpec} (live : (w.create now spec).2.Live run) :
    w.Live run ∨ run = spec.key := by
  unfold create at live
  split at live
  · exact .inl live
  · split at live
    · exact .inl live
    · rcases insertLive live with ⟨same, -⟩ | ⟨-, before⟩
      · exact .inr same
      · exact .inl before

theorem deleteLive (live : (w.delete key).Live run) : run ≠ key ∧ w.Live run := by
  obtain ⟨record, there, alive⟩ := live
  by_cases same : run = key
  · subst same
    rw [show (w.delete run).records = w.records.erase run from rfl, SortedMap.getEraseSame] at there
    cases there
  · rw [show (w.delete key).records = w.records.erase key from rfl,
      SortedMap.getEraseOther _ same] at there
    exact ⟨same, record, there, alive⟩

theorem finishLive {status : WorkloadStatus} (ended : status.state.isLive = false)
    (live : (w.finish key status).2.Live run) : w.Live run := by
  unfold finish at live
  split at live
  · exact live
  · rcases insertLive live with ⟨-, alive⟩ | ⟨-, before⟩
    · rw [ended] at alive
      cases alive
    · exact before

theorem statusLive (live : (w.status now key).2.Live run) :
    w.Live run ∧ (run = key → ∃ observed, (w.status now key).1 = some observed ∧
      observed.state.isLive = true) := by
  unfold status at live ⊢
  split at live
  · rename_i absent
    refine ⟨live, fun same => ?_⟩
    obtain ⟨record, there, -⟩ := live
    rw [same, absent] at there
    cases there
  · rename_i record found
    dsimp only at live ⊢
    split at live
    · rcases insertLive live with ⟨-, alive⟩ | ⟨other, before⟩
      · cases alive
      · exact ⟨before, fun same => absurd same other⟩
    · rename_i early
      refine ⟨live, fun same => ?_⟩
      obtain ⟨alive, there, lives⟩ := live
      rw [same, found] at there
      cases there
      rw [if_neg early]
      exact ⟨_, rfl, lives⟩

def Within (after w : Workloads) : Prop :=
  ∀ run record, after.records.get? run = some record →
    ∃ old, w.records.get? run = some old ∧ record.spec = old.spec

theorem withinSelf (w : Workloads) : w.Within w := fun _ record found => ⟨record, found, rfl⟩

theorem Within.after {first second third : Workloads} (later : third.Within second)
    (earlier : second.Within first) : third.Within first := by
  intro run record found
  obtain ⟨between, there, same⟩ := later run record found
  obtain ⟨old, before, spec⟩ := earlier run between there
  exact ⟨old, before, same.trans spec⟩

theorem Within.absent {after : Workloads} (within : after.Within w)
    (absent : w.records.get? run = none) : after.records.get? run = none := by
  cases found : after.records.get? run with
  | none => rfl
  | some record =>
    obtain ⟨old, there, -⟩ := within run record found
    rw [absent] at there
    cases there

theorem insertWithin {old record : Workload} (found : w.records.get? key = some old)
    (spec : record.spec = old.spec) : Within { w with records := w.records.insert key record } w := by
  intro run other there
  by_cases same : run = key
  · subst same
    rw [SortedMap.getInsertSame] at there
    cases there
    exact ⟨old, found, spec⟩
  · rw [SortedMap.getInsertOther _ _ same] at there
    exact ⟨other, there, rfl⟩

theorem deleteOther (other : run ≠ key) : (w.delete key).records.get? run = w.records.get? run :=
  SortedMap.getEraseOther _ other

theorem deleteKeeps {record : Workload} (found : (w.delete key).records.get? run = some record) :
    w.records.get? run = some record := by
  by_cases same : run = key
  · subst same
    cases found.symm.trans (SortedMap.getEraseSame w.records run)
  · rwa [deleteOther same] at found

theorem deleteWithin : (w.delete key).Within w := fun _ record found => ⟨record, deleteKeeps found, rfl⟩

theorem finishWithin {status : WorkloadStatus} : (w.finish key status).2.Within w := by
  unfold finish
  split
  · exact withinSelf w
  · rename_i old found
    exact insertWithin found rfl

theorem statusWithin : (w.status now key).2.Within w := by
  unfold status
  split
  · exact withinSelf w
  · rename_i old found
    dsimp only
    split
    · exact insertWithin found rfl
    · exact withinSelf w

theorem statusOther (other : run ≠ key) : (w.status now key).2.records.get? run = w.records.get? run := by
  unfold status
  split
  · rfl
  · dsimp only
    split
    · exact SortedMap.getInsertOther _ _ other
    · rfl

theorem createOther {spec : WorkloadSpec} (other : run ≠ spec.key) :
    (w.create now spec).2.records.get? run = w.records.get? run := by
  unfold create
  split
  · rfl
  · split
    · rfl
    · exact SortedMap.getInsertOther _ _ other

theorem createFree {spec : WorkloadSpec} (image : Text.isAllBlank spec.agent.spec.image = false)
    (free : w.records.get? spec.key = none) :
    (w.create now spec).2.records = w.records.insert spec.key ⟨spec, now, ⟨.running, none, .empty⟩⟩ := by
  unfold create
  have vacant : w.records.contains spec.key = false := by
    unfold SortedMap.contains
    rw [free]
    rfl
  simp [image, vacant]

end Workloads
end Turnstile
