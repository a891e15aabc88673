/-! Finite maps kept as a list in increasing key order. Equal maps have equal
lists, so listing, writing and comparing a map need no further rule. -/
namespace Turnstile
open Std

namespace SortedMap
variable {K V : Type} [Ord K]

abbrev Increasing (entries : List (K × V)) : Prop :=
  entries.Pairwise fun a b => compare a.1 b.1 = .lt

def insertEntry (k : K) (v : V) : List (K × V) → List (K × V)
  | [] => [(k, v)]
  | (k', v') :: rest =>
    match compare k k' with
    | .lt => (k, v) :: (k', v') :: rest
    | .eq => (k, v) :: rest
    | .gt => (k', v') :: insertEntry k v rest

def lookup (k : K) : List (K × V) → Option V
  | [] => none
  | (k', v) :: rest => if compare k k' = .eq then some v else lookup k rest

theorem keyOfInsertEntry {k : K} {v : V} {entries : List (K × V)} {e : K × V}
    (h : e ∈ insertEntry k v entries) : e.1 = k ∨ e ∈ entries := by
  induction entries with
  | nil => simp [insertEntry] at h; simp [h]
  | cons head rest ih =>
    unfold insertEntry at h
    split at h
    · rcases List.mem_cons.mp h with same | inside
      · exact .inl (by rw [same])
      · exact .inr inside
    · rcases List.mem_cons.mp h with same | inside
      · exact .inl (by rw [same])
      · exact .inr (List.mem_cons_of_mem _ inside)
    · rcases List.mem_cons.mp h with same | inside
      · exact .inr (by simp [same])
      · rcases ih inside with same | old
        · exact .inl same
        · exact .inr (List.mem_cons_of_mem _ old)

theorem increasingInsertEntry [TransOrd K] {k : K} {v : V} {entries : List (K × V)}
    (h : Increasing entries) : Increasing (insertEntry k v entries) := by
  induction entries with
  | nil => simp [insertEntry]
  | cons head rest ih =>
    have tail := (List.pairwise_cons.mp h).2
    have above := (List.pairwise_cons.mp h).1
    unfold insertEntry
    split
    · rename_i lower
      refine List.pairwise_cons.mpr ⟨?_, h⟩
      intro e he
      rcases List.mem_cons.mp he with same | inside
      · rw [same]; exact lower
      · exact TransCmp.lt_trans lower (above e inside)
    · rename_i equal
      refine List.pairwise_cons.mpr ⟨?_, tail⟩
      intro e he
      exact TransCmp.lt_of_eq_of_lt equal (above e he)
    · rename_i higher
      refine List.pairwise_cons.mpr ⟨?_, ih tail⟩
      intro e he
      rcases keyOfInsertEntry he with same | inside
      · rw [same]; exact OrientedCmp.gt_iff_lt.mp higher
      · exact above e inside

end SortedMap

structure SortedMap (K V : Type) [Ord K] where
  entries : List (K × V)
  increasing : SortedMap.Increasing entries
  deriving DecidableEq, Repr

namespace SortedMap
variable {K V : Type} [Ord K]

def empty : SortedMap K V := ⟨[], .nil⟩

instance : EmptyCollection (SortedMap K V) := ⟨empty⟩
instance : Inhabited (SortedMap K V) := ⟨empty⟩

def get? (m : SortedMap K V) (k : K) : Option V := lookup k m.entries

def contains (m : SortedMap K V) (k : K) : Bool := (m.get? k).isSome

def insert [TransOrd K] (m : SortedMap K V) (k : K) (v : V) : SortedMap K V :=
  ⟨insertEntry k v m.entries, increasingInsertEntry m.increasing⟩

def filter (m : SortedMap K V) (keep : K → V → Bool) : SortedMap K V :=
  ⟨m.entries.filter fun e => keep e.1 e.2, m.increasing.filter _⟩

def erase (m : SortedMap K V) (k : K) : SortedMap K V :=
  m.filter fun k' _ => compare k k' != .eq

def ofList [TransOrd K] (entries : List (K × V)) : SortedMap K V :=
  entries.foldl (fun m e => m.insert e.1 e.2) empty

def keys (m : SortedMap K V) : List K := m.entries.map (·.1)
def values (m : SortedMap K V) : List V := m.entries.map (·.2)
def size (m : SortedMap K V) : Nat := m.entries.length
def isEmpty (m : SortedMap K V) : Bool := m.entries.isEmpty

@[ext] theorem ext {m n : SortedMap K V} (h : m.entries = n.entries) : m = n := by
  cases m; cases n; cases h; rfl

@[simp] theorem getEmpty (k : K) : (empty : SortedMap K V).get? k = none := rfl

theorem lookupInsertEntry [TransOrd K] {k : K} {v : V} {entries : List (K × V)} (j : K) :
    lookup j (insertEntry k v entries) = if compare j k = .eq then some v else lookup j entries := by
  induction entries with
  | nil => simp [insertEntry, lookup]
  | cons head rest ih =>
    unfold insertEntry
    split
    · simp [lookup]
    · rename_i equal
      have swap : compare j head.1 = compare j k := (TransCmp.congr_right equal).symm
      simp only [lookup, swap]
      split <;> rfl
    · rename_i higher
      by_cases hj : compare j head.1 = .eq
      · have : compare j k ≠ .eq := by
          intro hk
          have : compare k j = compare k head.1 := TransCmp.congr_right hj
          rw [OrientedCmp.eq_comm.mp hk] at this
          rw [← this] at higher; cases higher
        simp [lookup, hj, this]
      · simp [lookup, hj, ih]

theorem getInsert [TransOrd K] (m : SortedMap K V) (k j : K) (v : V) :
    (m.insert k v).get? j = if compare j k = .eq then some v else m.get? j :=
  lookupInsertEntry j

theorem lookupFilter [TransOrd K] {k : K} {entries : List (K × V)} (j : K) :
    lookup j (entries.filter fun e => compare k e.1 != .eq) =
      if compare j k = .eq then none else lookup j entries := by
  induction entries with
  | nil => simp [lookup]
  | cons head rest ih =>
    by_cases hk : compare k head.1 = .eq
    · simp only [hk, bne_self_eq_false, Bool.false_eq_true, not_false_eq_true,
        List.filter_cons_of_neg, ih, lookup]
      have : compare j head.1 = compare j k := (TransCmp.congr_right hk).symm
      rw [this]; split <;> rfl
    · have keep : (compare k head.1 != .eq) = true := by simpa using hk
      simp only [keep, List.filter_cons_of_pos, lookup, ih]
      by_cases hj : compare j head.1 = .eq
      · have : compare j k ≠ .eq := by
          intro h
          exact hk (TransCmp.eq_trans (OrientedCmp.eq_comm.mp h) hj)
        simp [hj, this]
      · simp [hj]

theorem getErase [TransOrd K] (m : SortedMap K V) (k j : K) :
    (m.erase k).get? j = if compare j k = .eq then none else m.get? j :=
  lookupFilter j

end SortedMap
end Turnstile
