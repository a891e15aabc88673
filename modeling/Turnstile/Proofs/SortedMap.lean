import Turnstile.SortedMap
/-! Finite maps by what they hold: a write changes the lookup of one key, and the
values after it are the new one and those of the other keys. -/
namespace Turnstile.SortedMap
open Std

variable {K V : Type} [Ord K]

theorem filterAbove {k : K} {entries : List (K × V)}
    (above : ∀ e ∈ entries, compare k e.1 = .lt) :
    entries.filter (fun e => compare k e.1 != .eq) = entries := by
  rw [List.filter_eq_self]
  intro e he
  simp [above e he]

theorem insertEntryPerm [TransOrd K] {k : K} {v : V} {entries : List (K × V)}
    (sorted : Increasing entries) :
    (insertEntry k v entries).Perm
      ((k, v) :: entries.filter fun e => compare k e.1 != .eq) := by
  induction entries with
  | nil => simp [insertEntry]
  | cons head rest ih =>
    obtain ⟨above, tail⟩ := List.pairwise_cons.mp sorted
    unfold insertEntry
    split
    · rename_i lower
      have all : ∀ e ∈ head :: rest, compare k e.1 = .lt := by
        intro e he
        rcases List.mem_cons.mp he with same | inside
        · rw [same]; exact lower
        · exact TransCmp.lt_trans lower (above e inside)
      rw [filterAbove all]
    · rename_i equal
      have all : ∀ e ∈ rest, compare k e.1 = .lt :=
        fun e he => TransCmp.lt_of_eq_of_lt equal (above e he)
      simp [equal, filterAbove all]
    · rename_i higher
      simp only [List.filter_cons, higher, bne]
      exact ((ih tail).cons head).trans (List.Perm.swap _ _ _)

theorem insertPerm [TransOrd K] (m : SortedMap K V) (k : K) (v : V) :
    (m.insert k v).values.Perm (v :: (m.erase k).values) :=
  (insertEntryPerm (k := k) (v := v) m.increasing).map Prod.snd

section
variable [LawfulEqOrd K]

theorem lookupEntry {k : K} {v : V} {entries : List (K × V)} (sorted : Increasing entries) :
    lookup k entries = some v ↔ (k, v) ∈ entries := by
  induction entries with
  | nil => simp [lookup]
  | cons head rest ih =>
    obtain ⟨above, tail⟩ := List.pairwise_cons.mp sorted
    unfold lookup
    split
    · rename_i same
      have key : k = head.1 := LawfulEqOrd.eq_of_compare same
      have absent : (k, v) ∉ rest := fun inside => by
        have lower := above _ inside
        rw [← key, compare_self] at lower
        cases lower
      constructor
      · intro h
        cases h
        rw [key]
        exact List.mem_cons_self
      · intro h
        rcases List.mem_cons.mp h with first | inside
        · rw [← first]
        · exact absurd inside absent
    · rename_i different
      rw [ih tail, List.mem_cons]
      constructor
      · exact .inr
      · rintro (first | inside)
        · exact absurd (by rw [← first, compare_self]) different
        · exact inside

theorem memEntries {m : SortedMap K V} {k : K} {v : V} :
    (k, v) ∈ m.entries ↔ m.get? k = some v :=
  (lookupEntry m.increasing).symm

theorem memValues {m : SortedMap K V} {v : V} : v ∈ m.values ↔ ∃ k, m.get? k = some v := by
  constructor
  · intro h
    obtain ⟨e, inside, rfl⟩ := List.mem_map.mp h
    exact ⟨e.1, memEntries.mp inside⟩
  · rintro ⟨k, found⟩
    exact List.mem_map.mpr ⟨(k, v), memEntries.mpr found, rfl⟩

theorem memKeys {m : SortedMap K V} {k : K} : k ∈ m.keys ↔ (m.get? k).isSome = true := by
  rw [Option.isSome_iff_exists]
  constructor
  · intro h
    obtain ⟨e, inside, rfl⟩ := List.mem_map.mp h
    exact ⟨e.2, memEntries.mp inside⟩
  · rintro ⟨v, found⟩
    exact List.mem_map.mpr ⟨(k, v), memEntries.mpr found, rfl⟩

theorem distinctKeys (m : SortedMap K V) : m.keys.Nodup := by
  refine List.pairwise_map.mpr (m.increasing.imp ?_)
  intro a b order same
  rw [same, ReflOrd.compare_self] at order
  cases order

theorem eraseAbsent {m : SortedMap K V} {k : K} (absent : m.get? k = none) : m.erase k = m := by
  apply SortedMap.ext
  refine List.filter_eq_self.mpr fun e he => ?_
  have different : compare k e.1 ≠ .eq := by
    intro same
    rw [LawfulEqOrd.eq_of_compare same, memEntries.mp he] at absent
    cases absent
  simpa using different

theorem eraseAll [DecidableEq K] (m : SortedMap K V) (keys : List K) :
    keys.foldl erase m = m.filter fun k _ => !keys.contains k := by
  induction keys generalizing m with
  | nil =>
    apply SortedMap.ext
    exact (List.filter_eq_self.mpr fun _ _ => rfl).symm
  | cons k rest ih =>
    rw [List.foldl_cons, ih]
    apply SortedMap.ext
    unfold erase filter
    dsimp only
    rw [List.filter_filter]
    refine List.filter_congr fun e _ => ?_
    by_cases same : e.1 = k
    · simp [same]
    · have apart : compare k e.1 ≠ .eq := fun equal => same (LawfulEqOrd.eq_of_compare equal).symm
      simp [same, apart]

variable [TransOrd K]

@[simp] theorem getInsertSame (m : SortedMap K V) (k : K) (v : V) :
    (m.insert k v).get? k = some v := by
  rw [getInsert, compare_self, if_pos rfl]

theorem getInsertOther (m : SortedMap K V) {k j : K} (v : V) (other : j ≠ k) :
    (m.insert k v).get? j = m.get? j := by
  have different : compare j k ≠ .eq := fun h => other (LawfulEqOrd.eq_of_compare h)
  rw [getInsert, if_neg different]

@[simp] theorem getEraseSame (m : SortedMap K V) (k : K) : (m.erase k).get? k = none := by
  rw [getErase, compare_self, if_pos rfl]

theorem getEraseOther (m : SortedMap K V) {k j : K} (other : j ≠ k) :
    (m.erase k).get? j = m.get? j := by
  have different : compare j k ≠ .eq := fun h => other (LawfulEqOrd.eq_of_compare h)
  rw [getErase, if_neg different]

theorem insertEntryFound {k : K} {v : V} {entries : List (K × V)} (sorted : Increasing entries)
    (inside : (k, v) ∈ entries) : insertEntry k v entries = entries := by
  induction entries with
  | nil => cases inside
  | cons head rest ih =>
    obtain ⟨above, tail⟩ := List.pairwise_cons.mp sorted
    unfold insertEntry
    rcases List.mem_cons.mp inside with rfl | later
    · simp only [compare_self]
    · have higher : compare k head.1 = .gt := OrientedCmp.gt_iff_lt.mpr (above _ later)
      simp only [higher]
      rw [ih tail later]

theorem insertFound {m : SortedMap K V} {k : K} {v : V} (found : m.get? k = some v) : m.insert k v = m :=
  SortedMap.ext (insertEntryFound m.increasing (memEntries.mpr found))

theorem entryPerm {k : K} {v : V} {entries : List (K × V)} (sorted : Increasing entries)
    (inside : (k, v) ∈ entries) :
    entries.Perm ((k, v) :: entries.filter fun e => compare k e.1 != .eq) := by
  induction entries with
  | nil => cases inside
  | cons head rest ih =>
    obtain ⟨above, tail⟩ := List.pairwise_cons.mp sorted
    rcases List.mem_cons.mp inside with same | later
    · subst same
      simp [filterAbove above]
    · have keep : (compare k head.1 != .eq) = true := by
        have higher := OrientedCmp.gt_iff_lt.mpr (above _ later)
        simp [higher]
      simp only [List.filter_cons, keep, if_true]
      exact ((ih tail later).cons head).trans (List.Perm.swap _ _ _)

theorem foundPerm {m : SortedMap K V} {k : K} {v : V} (found : m.get? k = some v) :
    m.values.Perm (v :: (m.erase k).values) :=
  (entryPerm m.increasing (memEntries.mpr found)).map Prod.snd

end

section
variable [TransOrd K]

theorem insertEntryLast {k : K} {v : V} {entries : List (K × V)}
    (below : ∀ e ∈ entries, compare e.1 k = .lt) : insertEntry k v entries = entries ++ [(k, v)] := by
  induction entries with
  | nil => rfl
  | cons head rest ih =>
    have higher : compare k head.1 = .gt := OrientedCmp.gt_iff_lt.mpr (below head List.mem_cons_self)
    simp only [insertEntry, higher, ih fun e inside => below e (List.mem_cons_of_mem head inside),
      List.cons_append]

theorem insertAll {entries : List (K × V)} (m : SortedMap K V)
    (sorted : Increasing (m.entries ++ entries)) :
    (entries.foldl (fun m e => m.insert e.1 e.2) m).entries = m.entries ++ entries := by
  induction entries generalizing m with
  | nil => simp
  | cons e rest ih =>
    have below : ∀ old ∈ m.entries, compare old.1 e.1 = .lt := fun old inside =>
      (List.pairwise_append.mp sorted).2.2 old inside e List.mem_cons_self
    have inserted : (m.insert e.1 e.2).entries = m.entries ++ [e] := insertEntryLast below
    rw [List.foldl_cons, ih _ (by rw [inserted]; simpa using sorted), inserted]
    simp

theorem entriesOfList {entries : List (K × V)} (sorted : Increasing entries) :
    (ofList entries).entries = entries :=
  insertAll empty sorted

@[simp] theorem ofListEntries (m : SortedMap K V) : ofList m.entries = m :=
  ext (entriesOfList m.increasing)

end
end Turnstile.SortedMap
