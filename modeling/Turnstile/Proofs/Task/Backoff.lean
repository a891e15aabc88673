import Turnstile.Proofs.Task.Retries
import Turnstile.Proofs.Time.Rfc3339
/-! How long a failed task waits before it runs again. The delays are whole seconds that grow with the
attempts. They are worked out in words, none of which overflows, and the instants at which they end
can be told. -/
namespace Turnstile

namespace Duration

theorem secondsOrder {m n : Nat} : ofSeconds m ≤ ofSeconds n ↔ m ≤ n := by
  change m * 1000000000 ≤ n * 1000000000 ↔ m ≤ n
  omega

theorem secondsMin (m n : Nat) : (ofSeconds m).min (ofSeconds n) = ofSeconds (Nat.min m n) := by
  change Duration.mk (Nat.min (m * 1000000000) (n * 1000000000)) = ⟨Nat.min m n * 1000000000⟩
  exact congrArg Duration.mk (Nat.mul_min_mul_right ..)

end Duration

def Backoff.growth : Backoff → Nat → Nat
  | .linear, _ => 30
  | .exponential, attempt => 5 * 2 ^ (min attempt 32 - 1)

namespace Backoff
variable {b : Backoff} {m n : Nat}

theorem growthMonotone (order : m ≤ n) : b.growth m ≤ b.growth n := by
  cases b with
  | linear => exact Nat.le_refl _
  | exponential =>
    have fewer : min m 32 - 1 ≤ min n 32 - 1 := by omega
    exact Nat.mul_le_mul_left 5 (Nat.pow_le_pow_right (by decide) fewer)

theorem growthEnds : b.growth n ≤ 5 * 2 ^ 31 := by
  cases b with
  | linear => exact (by decide : 30 ≤ 5 * 2 ^ 31)
  | exponential =>
    have fewer : min n 32 - 1 ≤ 31 := by omega
    exact Nat.mul_le_mul_left 5 (Nat.pow_le_pow_right (by decide) fewer)

end Backoff

namespace RetryPolicy

def underCap (p : RetryPolicy) (n : Nat) : Nat := p.maxDelaySecs.elim n fun cap => min n cap.toNat

section
variable {p : RetryPolicy} {m n : Nat}

theorem underCapMonotone (order : m ≤ n) : p.underCap m ≤ p.underCap n := by
  unfold underCap
  cases p.maxDelaySecs with
  | none => exact order
  | some cap =>
    change min m cap.toNat ≤ min n cap.toNat
    omega

theorem underCapLess : p.underCap n ≤ n := by
  unfold underCap
  cases p.maxDelaySecs with
  | none => exact Nat.le_refl _
  | some cap => exact Nat.min_le_left ..

theorem underCapCapped {cap : UInt64} (capped : p.maxDelaySecs = some cap) : p.underCap n ≤ cap.toNat := by
  unfold underCap
  rw [capped]
  exact Nat.min_le_right ..

end

section
variable (attempt : UInt32)

theorem doublingsCount : (doublings attempt).toNat = min attempt.toNat 32 - 1 := by
  have before : (if attempt = 0 then 0 else attempt - 1).toNat = attempt.toNat - 1 := by
    split
    · rename_i none_
      rw [none_]
      rfl
    · rename_i some_
      have first : 1 ≤ attempt.toNat := Nat.pos_of_ne_zero fun zero => some_ (UInt32.toNat_inj.mp zero)
      exact UInt32.toNat_sub_of_le _ _ (UInt32.le_iff_toNat_le.mpr first)
  unfold doublings
  generalize (if attempt = 0 then 0 else attempt - 1) = earlier at before
  change (if earlier ≤ 31 then earlier else 31).toNat = _
  split
  · rename_i few
    have few : earlier.toNat ≤ 31 := UInt32.le_iff_toNat_le.mp few
    omega
  · rename_i many
    have many : ¬ earlier.toNat ≤ 31 := fun few => many (UInt32.le_iff_toNat_le.mpr few)
    change 31 = _
    omega

theorem factorPower : (factor attempt).toNat = 2 ^ (doublings attempt).toNat := by
  have count := doublingsCount attempt
  -- a shift by the width of a word would count as none
  have within : (doublings attempt).toNat < 32 := by omega
  unfold factor
  rw [UInt32.toNat_shiftLeft, Nat.mod_eq_of_lt within, Nat.shiftLeft_eq]
  change 1 * 2 ^ _ % 2 ^ 32 = _
  rw [Nat.one_mul, Nat.mod_eq_of_lt (Nat.pow_lt_pow_right (by decide) within)]

theorem multipleTold : firstDelay.nanoseconds * (factor attempt).toNat ≤ Duration.longest.nanoseconds := by
  have below := (factor attempt).toNat_lt
  change 5 * 1000000000 * _ ≤ 18446744073709551615999999999
  omega

theorem uncappedGrowth (b : Backoff) : uncapped b attempt = .ofSeconds (b.growth attempt.toNat) := by
  cases b with
  | linear => rfl
  | exponential =>
    have whole : firstDelay.times (factor attempt) = ⟨firstDelay.nanoseconds * (factor attempt).toNat⟩ :=
      congrArg Duration.mk (Nat.min_eq_right (multipleTold attempt))
    unfold uncapped
    rw [whole, factorPower, doublingsCount]
    change Duration.mk (5 * 1000000000 * _) = ⟨5 * _ * 1000000000⟩
    congr 1
    omega

theorem delaySeconds (p : RetryPolicy) :
    p.delay attempt = .ofSeconds (p.underCap (p.backoff.growth attempt.toNat)) := by
  unfold delay underCap
  rw [uncappedGrowth]
  cases p.maxDelaySecs with
  | none => rfl
  | some cap => exact Duration.secondsMin ..

end

end RetryPolicy

namespace Instant
variable {t : Instant} {n : Nat}

theorem yearSeconds (four : t.FourDigitYear) : t.second < 3300001 * 86400 := by
  have days := (dayOfYear four).2
  omega

theorem delayTold (four : t.FourDigitYear) (short : n ≤ 5 * 2 ^ 31) :
    t.shift (Duration.ofSeconds n).nanoseconds ≤ last := by
  have start := yearSeconds four
  have stop := (t.secondsForward n).second
  refine .inl ?_
  rw [stop]
  change _ < (8210266876799 : Int)
  omega

theorem afterDelay (four : t.FourDigitYear) (short : n ≤ 5 * 2 ^ 31) :
    t.SecondsLater n (t.after (.ofSeconds n)) := by
  have whole : t.after (.ofSeconds n) = t.shift (Duration.ofSeconds n).nanoseconds :=
    if_neg (dueNotEarly (delayTold four short))
  rw [whole]
  exact t.secondsForward n

end Instant

theorem Round.backoffSet {q : Round} {t u : Task} (stored : q.before.store.get? .task q.key = some t)
    (running : t.phase = .running) (after : q.after.store.get? .task q.key = some u)
    (queued : u.phase = .queued) : u.status.retryAfter =
      some (q.now.after ((Reconcile.policyOf q.reconciler t).delay t.status.attempts)) := by
  rcases q.changed.found stored with ⟨same, -⟩ | ⟨version, change, write, written⟩
  · cases Option.some.inj (after.symm.trans same)
    rw [running] at queued
    cases queued
  · cases Option.some.inj (after.symm.trans written)
    generalize q.after.workloads = w at write
    cases write with
    | blocked _ idle | queued _ idle | started _ idle => exact absurd running idle
    | completed | failed | stopped => cases queued
    | retried _ _ _ _ again =>
      rw [(RetryPolicy.retriesOnly again).2]
      rfl

namespace RetryPolicy

/-- The delays of a policy do not shrink from one attempt to a later one, and none is above its cap.
With the exponential profile the first is doubled with every attempt up to the thirty-second, and stays
as it is from there on; an attempt numbered zero waits as the first. For any attempt the shift is by less
than a word, the factor is the power of two that it stands for, and the multiple is one that can be told.
From an instant in a year of four digits a delay ends at one that can be told, so many seconds later, and
that is the instant that a reconcile sets for a task that it puts back in line. -/
theorem delaysGrow (p : RetryPolicy) :
    (∀ a b, a ≤ b → p.delay a ≤ p.delay b) ∧
    (∀ a cap, p.maxDelaySecs = some cap → p.delay a ≤ .ofSeconds cap.toNat) ∧
    (p.backoff = .exponential → ∀ a : UInt32,
      (a ≤ 32 → p.delay a = .ofSeconds (p.underCap (5 * 2 ^ (a.toNat - 1)))) ∧
      (32 < a → p.delay a = p.delay 32)) ∧
    (∀ a, (doublings a).toNat < 32 ∧ (factor a).toNat = 2 ^ (doublings a).toNat ∧
      firstDelay.nanoseconds * (factor a).toNat ≤ Duration.longest.nanoseconds) ∧
    (∀ a, ∃ n ≤ 5 * 2 ^ 31, p.delay a = .ofSeconds n ∧ ∀ now : Instant, now.FourDigitYear →
      now.shift (p.delay a).nanoseconds ≤ .last ∧ now.SecondsLater n (now.after (p.delay a))) ∧
    (∀ q : Round, q.now.FourDigitYear → ∀ t u, q.before.store.get? .task q.key = some t →
      Reconcile.policyOf q.reconciler t = p → t.phase = .running →
      q.after.store.get? .task q.key = some u → u.phase = .queued →
      ∃ n retryAt, p.delay t.status.attempts = .ofSeconds n ∧ u.status.retryAfter = some retryAt ∧
        q.now.SecondsLater n retryAt) := by
  have short (a : UInt32) : p.underCap (p.backoff.growth a.toNat) ≤ 5 * 2 ^ 31 :=
    Nat.le_trans underCapLess Backoff.growthEnds
  refine ⟨fun a b order => ?_, fun a cap capped => ?_, fun profile a => ⟨fun low => ?_, fun high => ?_⟩,
    fun a => ⟨?_, factorPower a, multipleTold a⟩, fun a => ?_, fun q four t u stored own running after queued => ?_⟩
  · rw [delaySeconds, delaySeconds, Duration.secondsOrder]
    exact underCapMonotone (Backoff.growthMonotone (UInt32.le_iff_toNat_le.mp order))
  · rw [delaySeconds, Duration.secondsOrder]
    exact underCapCapped capped
  · have low : a.toNat ≤ 32 := UInt32.le_iff_toNat_le.mp low
    rw [delaySeconds, profile, Backoff.growth, Nat.min_eq_left low]
  · have high : 32 < a.toNat := UInt32.lt_iff_toNat_lt.mp high
    rw [delaySeconds, delaySeconds, profile, Backoff.growth, Nat.min_eq_right (Nat.le_of_lt high)]
    rfl
  · have count := doublingsCount a
    omega
  · refine ⟨_, short a, delaySeconds a p, fun now four => ?_⟩
    rw [delaySeconds]
    exact ⟨Instant.delayTold four (short a), Instant.afterDelay four (short a)⟩
  · have waits := Round.backoffSet stored running after queued
    rw [own, delaySeconds] at waits
    exact ⟨_, _, delaySeconds t.status.attempts p, waits, Instant.afterDelay four (short _)⟩

def lateFailure (p : RetryPolicy) : Round :=
  { (Round.first (Agent.bare ⟨"ns", "agent"⟩ none) ⟨"ns", "task"⟩).failed (Key.run ⟨"ns", "task"⟩ 1) with
    reconciler := ⟨p, Reconciler.bare.timing⟩
    now := ⟨253402300799, 1500000000, .inr (by decide)⟩ }

theorem delaysGrowLate :
    let p : RetryPolicy := ⟨40, .exponential, some 10737418239⟩
    p.delay 0 ≤ p.delay 4294967295 ∧ p.delay 32 ≤ .ofSeconds 10737418239 ∧
    p.delay 31 = .ofSeconds (p.underCap (5 * 2 ^ 30)) ∧ p.delay 4294967295 = p.delay 32 ∧
    ∃ u, (lateFailure p).after.store.get? .task ⟨"ns", "task"⟩ = some u ∧
      ∃ n retryAt, p.delay 1 = .ofSeconds n ∧ u.status.retryAfter = some retryAt ∧
        (lateFailure p).now.SecondsLater n retryAt := by
  intro p
  obtain ⟨grows, capped, doubled, -, -, set⟩ := delaysGrow p
  have failed : ((lateFailure p).before.store.get? .task ⟨"ns", "task"⟩).map (fun t =>
      (Reconcile.policyOf (lateFailure p).reconciler t, t.phase, t.status.attempts)) =
        some (p, .running, 1) := by decide +kernel
  have queued : ((lateFailure p).after.store.get? .task ⟨"ns", "task"⟩).map Task.phase = some .queued := by
    decide +kernel
  obtain ⟨t, stored, facts⟩ := Option.map_eq_some_iff.mp failed
  obtain ⟨own, running, attempts⟩ : _ ∧ _ ∧ _ := by simpa only [Prod.mk.injEq] using facts
  obtain ⟨u, found, queued⟩ := Option.map_eq_some_iff.mp queued
  have waits := set (lateFailure p) (by decide +kernel) t u stored own running found queued
  rw [attempts] at waits
  exact ⟨grows _ _ (by decide), capped 32 10737418239 rfl, (doubled rfl 31).1 (by decide),
    (doubled rfl 4294967295).2 (by decide), u, found, waits⟩

end RetryPolicy
end Turnstile
