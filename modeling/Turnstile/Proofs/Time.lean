import Turnstile.Time.Instant
/-! The order of instants, and how it goes together with moves in time. -/
namespace Turnstile.Instant

theorem notEarly {a b : Instant} (late : ¬ a < b) : b ≤ a := by
  change ¬ (a.second < b.second ∨ (a.second = b.second ∧ a.nano < b.nano)) at late
  change b.second < a.second ∨ (b.second = a.second ∧ b.nano ≤ a.nano)
  omega

theorem dueNotEarly {a b : Instant} (due : a ≤ b) : ¬ b < a := by
  change a.second < b.second ∨ (a.second = b.second ∧ a.nano ≤ b.nano) at due
  change ¬ (b.second < a.second ∨ (b.second = a.second ∧ b.nano < a.nano))
  omega

theorem earlier {a b : Instant} (early : a < b) : a ≤ b := early.imp_right (And.imp_right Nat.le_of_lt)

theorem sameOrEarlier {a b c : Instant} (first : a ≤ b) (second : b ≤ c) : a ≤ c := by
  change a.second < b.second ∨ (a.second = b.second ∧ a.nano ≤ b.nano) at first
  change b.second < c.second ∨ (b.second = c.second ∧ b.nano ≤ c.nano) at second
  change a.second < c.second ∨ (a.second = c.second ∧ a.nano ≤ c.nano)
  omega

/-- An instant outside of the leap seconds, as a clock shows it. -/
def Plain (t : Instant) : Prop := t.nano < 1000000000

instance (t : Instant) : Decidable t.Plain := inferInstanceAs (Decidable (t.nano < 1000000000))

theorem secondsLength (n : Nat) : ((Duration.ofSeconds n).nanoseconds : Int) = n * 1000000000 := by
  simp [Duration.ofSeconds]

/-- Whole seconds back from an instant and from one that is not earlier. A leap second
counts as a second of its own on the way back, so the earlier one must be plain. -/
theorem secondsBack {s t : Instant} (plain : s.Plain) (order : s ≤ t) (n : Nat) :
    s.shift (-((Duration.ofSeconds n).nanoseconds : Int)) ≤
      t.shift (-((Duration.ofSeconds n).nanoseconds : Int)) := by
  change s.nano < 1000000000 at plain
  change s.second < t.second ∨ (s.second = t.second ∧ s.nano ≤ t.nano) at order
  have within := t.inSecond
  have whole : (-(n * 1000000000 : Int)).tdiv 1000000000 = -n := by
    rw [Int.neg_tdiv, Int.mul_tdiv_cancel _ (by decide)]
  have part : (-(n * 1000000000 : Int)).tmod 1000000000 = 0 := by
    rw [Int.neg_tmod, Int.mul_tmod_left]
    rfl
  rw [secondsLength]
  change (s.shift _).second < (t.shift _).second ∨
    ((s.shift _).second = (t.shift _).second ∧ (s.shift _).nano ≤ (t.shift _).nano)
  unfold shift
  rw [if_pos plain]
  split
  · simp only [ofNanoseconds, nanoseconds]
    omega
  · simp only [whole, part]
    split
    · rename_i forward
      simp only [Bool.or_eq_true, Bool.and_eq_true, decide_eq_true_eq] at forward
      omega
    · split
      · simp only [ofNanoseconds, nanoseconds]
        omega
      · simp only [ofNanoseconds, nanoseconds]
        split
        · dsimp only
          omega
        · omega

/-- The clock shows so many whole seconds more; with any at all, a leap second is left. -/
structure SecondsLater (t : Instant) (n : Nat) (later : Instant) : Prop where
  second : later.second = t.second + n
  nano : later.nano = if n = 0 then t.nano else t.nano % 1000000000

theorem secondsForward (t : Instant) (n : Nat) :
    t.SecondsLater n (t.shift (Duration.ofSeconds n).nanoseconds) := by
  have within := t.inSecond
  have whole : (n * 1000000000 : Int).tdiv 1000000000 = n := Int.mul_tdiv_cancel _ (by decide)
  have part : (n * 1000000000 : Int).tmod 1000000000 = 0 := Int.mul_tmod_left ..
  rw [secondsLength]
  unfold shift
  split
  · constructor
    · simp only [ofNanoseconds, nanoseconds]
      omega
    · simp only [ofNanoseconds, nanoseconds]
      split <;> omega
  · rename_i leap
    simp only [whole, part, Int.lt_irrefl, decide_false, Bool.false_and, Bool.or_false, decide_eq_true_eq]
    by_cases still : n = 0
    · have inLeap : t.nano < 2000000000 ∧ t.second % 60 = 59 := within.resolve_left leap
      subst still
      rw [if_neg (by decide), if_neg (by decide), dif_pos (by omega)]
      exact ⟨(Int.add_zero _).symm, by simp⟩
    · rw [if_pos (by omega)]
      constructor
      · simp only [ofNanoseconds, nanoseconds]
        omega
      · simp only [ofNanoseconds, nanoseconds, if_neg still]
        omega

section
variable {a b : Instant}

theorem plainLe (first : a.Plain) (second : b.Plain) : a ≤ b ↔ a.nanoseconds ≤ b.nanoseconds := by
  change a.nano < 1000000000 at first
  change b.nano < 1000000000 at second
  change a.second < b.second ∨ (a.second = b.second ∧ a.nano ≤ b.nano) ↔ _
  unfold nanoseconds
  omega

theorem shiftPlain (plain : a.Plain) (d : Int) :
    (a.shift d).Plain ∧ (a.shift d).nanoseconds = a.nanoseconds + d := by
  have moved : a.shift d = ofNanoseconds (a.nanoseconds + d) := if_pos plain
  rw [moved]
  unfold Plain
  simp only [ofNanoseconds, nanoseconds]
  omega

theorem shiftLe (first : a.Plain) (second : b.Plain) (d : Int) : a ≤ b.shift d ↔ a.shift (-d) ≤ b := by
  obtain ⟨after, forward⟩ := shiftPlain second d
  obtain ⟨before, back⟩ := shiftPlain first (-d)
  rw [plainLe first after, plainLe before second, forward, back]
  omega

end

end Turnstile.Instant
