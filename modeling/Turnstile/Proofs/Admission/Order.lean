import Turnstile.Admission
import Turnstile.Proofs.Store
/-! The line of an agent. It is a strict order on stored tasks, and who stands
before a task in it decides how much room the task needs. -/
namespace Turnstile
open Std

namespace Instant

instance : TransOrd Instant :=
  inferInstanceAs (TransCmp (compareLex (compareOn Instant.second) (compareOn Instant.nano)))

theorem shiftBack (t : Instant) (n : Nat) : t.shift (-(n : Int)) ≤ t := by
  have whole : (-(n : Int)).tdiv 1000000000 = -(n / 1000000000 : Int) := by
    rw [Int.neg_tdiv, Int.tdiv_eq_ediv_of_nonneg (Int.natCast_nonneg n)]
  have part : (-(n : Int)).tmod 1000000000 = -(n % 1000000000 : Int) := by
    rw [Int.neg_tmod, Int.tmod_eq_emod_of_nonneg (Int.natCast_nonneg n)]
  have within := t.inSecond
  change (t.shift (-(n : Int))).second < t.second ∨
    ((t.shift (-(n : Int))).second = t.second ∧ (t.shift (-(n : Int))).nano ≤ t.nano)
  unfold shift
  split
  · simp only [ofNanoseconds, nanoseconds]
    omega
  · simp only [whole, part]
    split
    · rename_i forward
      simp only [Bool.or_eq_true, Bool.and_eq_true, decide_eq_true_eq] at forward
      omega
    · split
      · simp only [ofNanoseconds, nanoseconds]
        omega
      · split
        · dsimp only
          omega
        · exact .inr ⟨rfl, Nat.le_refl _⟩

end Instant

namespace Headroom

theorem exceedsFewer {h : Headroom} {m n : Nat} (fewer : m ≤ n) (room : h.exceeds n = true) :
    h.exceeds m = true := by
  cases h with
  | unlimited => rfl
  | limited free =>
    simp only [exceeds, decide_eq_true_eq] at room ⊢
    omega

theorem exceedsUsed (limit : Option UInt32) (used more n : Nat) :
    (ofUsage limit (used + more)).exceeds n = (ofUsage limit used).exceeds (more + n) := by
  cases limit with
  | none => rfl
  | some max =>
    simp only [ofUsage, exceeds, decide_eq_decide]
    omega

theorem exceedsEased {limit : Option UInt32} {used fewer n : Nat} (less : fewer ≤ used)
    (free : (ofUsage limit used).exceeds n = true) : (ofUsage limit fewer).exceeds n = true := by
  obtain ⟨more, rfl⟩ := Nat.exists_eq_add_of_le less
  rw [exceedsUsed] at free
  exact exceedsFewer (Nat.le_add_left ..) free

def least : Headroom → Headroom → Headroom
  | unlimited, h => h
  | limited a, unlimited => limited a
  | limited a, limited b => limited (min a b)

theorem leastExceeds (a b : Headroom) (n : Nat) :
    (a.least b).exceeds n = (a.exceeds n && b.exceeds n) := by
  cases a with
  | unlimited => cases b <;> simp [least, exceeds]
  | limited x =>
    cases b with
    | unlimited => simp [least, exceeds]
    | limited y => simp only [least, exceeds, Nat.lt_min, Bool.decide_and]

def among : Headroom → Nat → Nat
  | unlimited, n => n
  | limited free, n => min free n

theorem belowAmong {h : Headroom} {i n : Nat} : i < h.among n ↔ h.exceeds i = true ∧ i < n := by
  cases h with
  | unlimited => simp [among, exceeds]
  | limited free => simp only [among, exceeds, Nat.lt_min, decide_eq_true_eq]

end Headroom

namespace Admission

theorem createdCompare : createdOrder = compare (α := Option Instant) := by
  funext a b
  cases a <;> cases b <;> rfl

theorem lineCompare :
    lineOrder = compareLex (compareOn fun t => t.metadata.creationTimestamp) (compareOn Task.key) := by
  funext a b
  unfold lineOrder
  rw [createdCompare]
  rfl

instance : TransCmp lineOrder := by
  rw [lineCompare]
  infer_instance

def before (q t : Task) : Bool := lineOrder q t == .lt

theorem beforeSelf (t : Task) : before t t = false := by
  simp [before, ReflCmp.compare_self]

theorem notBefore {q t : Task} (after : lineOrder t q = .lt) : before q t = false := by
  have swapped : lineOrder q t = .gt := OrientedCmp.gt_of_lt after
  simp [before, swapped]

def waiting (now : Instant) (agent : Key) (tasks : List Task) : List Task :=
  (countedAgainst agent tasks).filter (isEligible now)

def line (now : Instant) (agent : Key) (tasks : List Task) : List Task :=
  (waiting now agent tasks).mergeSort fun a b => (lineOrder a b).isLE

section
variable {now : Instant} {agent : Key} {tasks pre post : List Task} {t : Task}

theorem linePerm : (line now agent tasks).Perm (waiting now agent tasks) := List.mergeSort_perm _ _

theorem inLine : t ∈ line now agent tasks ↔
    t ∈ tasks ∧ t.agentKey? = some agent ∧ isEligible now t = true := by
  rw [linePerm.mem_iff]
  unfold waiting countedAgainst
  rw [List.mem_filter, List.mem_filter, and_assoc, beq_iff_eq]

theorem lineKeys (distinct : (tasks.map Task.key).Nodup) :
    ((line now agent tasks).map Task.key).Nodup := by
  have waits : (waiting now agent tasks).Sublist tasks :=
    List.filter_sublist.trans List.filter_sublist
  exact (linePerm.map Task.key).nodup_iff.mpr ((waits.map Task.key).nodup distinct)

theorem lineSorted (distinct : (tasks.map Task.key).Nodup) :
    (line now agent tasks).Pairwise fun a b => lineOrder a b = .lt := by
  have sorted : (line now agent tasks).Pairwise fun a b => (lineOrder a b).isLE = true := by
    refine List.pairwise_mergeSort ?_ ?_ _
    · exact fun a b c => TransCmp.isLE_trans
    · intro a b
      have turned : lineOrder b a = (lineOrder a b).swap := OrientedCmp.eq_swap
      rw [turned]
      cases lineOrder a b <;> rfl
  have apart : (line now agent tasks).Pairwise fun a b => a.key ≠ b.key :=
    List.pairwise_map.mp (lineKeys distinct)
  refine (sorted.and apart).imp ?_
  intro a b both
  obtain ⟨least, different⟩ := both
  cases order : lineOrder a b with
  | lt => rfl
  | gt => rw [order] at least; cases least
  | eq =>
    rw [lineCompare] at order
    have keys : compare a.key b.key = .eq := (Ordering.then_eq_eq.mp order).2
    exact absurd (LawfulEqOrd.eq_of_compare keys) different

theorem countBefore (sorted : (pre ++ t :: post).Pairwise fun a b => lineOrder a b = .lt) :
    (pre ++ t :: post).countP (before · t) = pre.length := by
  obtain ⟨-, tail, across⟩ := List.pairwise_append.mp sorted
  have older : ∀ q ∈ pre, before q t = true := by
    intro q inside
    have order := across q inside t (List.mem_cons_self ..)
    simp [before, order]
  have younger : ∀ q ∈ post, ¬ before q t = true := by
    intro q inside
    rw [notBefore ((List.pairwise_cons.mp tail).1 q inside)]
    exact Bool.false_ne_true
  rw [List.countP_append, List.countP_cons, List.countP_eq_length.mpr older,
    List.countP_eq_zero.mpr younger, beforeSelf]
  rfl

/-- Who has room keeps it while those behind with room take theirs. -/
theorem roomKept {room : Nat → Bool} (fewer : ∀ {m n}, m ≤ n → room n = true → room m = true)
    {taken : Task → Bool} {i : Nat}
    (behind : ∀ k q, post[k]? = some q → taken q = true → room (i + k + 1) = true)
    (first : room i = true) : room (i + post.countP taken) = true := by
  induction post generalizing i with
  | nil => exact first
  | cons q rest ih =>
    rw [List.countP_cons]
    by_cases takes : taken q = true
    · have next : room (i + 1) = true := behind 0 q rfl takes
      have others := ih (i := i + 1) (fun k q there takes => by
        have room := behind (k + 1) q there takes
        rwa [show i + 1 + k + 1 = i + (k + 1) + 1 by omega]) next
      rw [if_pos takes]
      rwa [show i + (rest.countP taken + 1) = i + 1 + rest.countP taken by omega]
    · rw [if_neg takes]
      refine ih (fun k q there takes => fewer ?_ (behind (k + 1) q there takes)) first
      omega

end
end Admission
end Turnstile
