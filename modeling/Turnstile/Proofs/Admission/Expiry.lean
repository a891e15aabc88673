import Turnstile.Proofs.Admission.Moves
import Turnstile.Proofs.Time
/-! When a start quota eases. The window takes in both of its ends, so the oldest start that counts is still
counted at the instant told as its expiry, and leaves right after it. -/
namespace Turnstile
namespace Admission

def InWindow (w : Duration) (now s : Instant) : Prop := now.shift (-(w.nanoseconds : Int)) ≤ s ∧ s ≤ now

instance (w : Duration) (now s : Instant) : Decidable (InWindow w now s) := inferInstanceAs (Decidable (_ ∧ _))

def started (agent : Key) (tasks : List Task) : List Instant :=
  (countedAgainst agent tasks).filterMap (·.status.startTime)

section
variable {agent : Key} {quota : AgentQuota} {tasks : List Task} {w : Duration} {now later oldest s e : Instant}

theorem startedBy (inside : s ∈ started agent tasks) : ∃ t ∈ tasks, t.status.startTime = some s := by
  obtain ⟨t, counted, start⟩ := List.mem_filterMap.mp inside
  exact ⟨t, (List.mem_filter.mp counted).1, start⟩

theorem startsWindow : startsWithin agent tasks w now =
    ((started agent tasks).filter fun s => decide (InWindow w now s)).mergeSort fun a b => decide (a ≤ b) := by
  have same (s : Instant) : (decide (now.shift (-(w.nanoseconds : Int)) ≤ s) && decide (s ≤ now)) =
      decide (InWindow w now s) := (Bool.decide_and _ _).symm
  unfold startsWithin started
  simp only [same]

theorem inStarts : s ∈ startsWithin agent tasks w now ↔ s ∈ started agent tasks ∧ InWindow w now s := by
  rw [startsWindow, List.mem_mergeSort, List.mem_filter, decide_eq_true_eq]

theorem oldestFirst (first : (startsWithin agent tasks w now).head? = some oldest) :
    oldest ∈ startsWithin agent tasks w now ∧ ∀ s ∈ startsWithin agent tasks w now, oldest ≤ s := by
  have sorted : (startsWithin agent tasks w now).Pairwise fun a b => decide (a ≤ b) = true := by
    refine List.pairwise_mergeSort (fun a b c early late => ?_) (fun a b => ?_) _
    · exact decide_eq_true (Instant.sameOrEarlier (of_decide_eq_true early) (of_decide_eq_true late))
    · by_cases order : b < a
      · simp [Instant.earlier order]
      · simp [Instant.notEarly order]
  obtain ⟨rest, whole⟩ := List.head?_eq_some_iff.mp first
  rw [whole] at sorted ⊢
  refine ⟨List.mem_cons_self, fun s inside => ?_⟩
  rcases List.mem_cons.mp inside with rfl | behind
  · exact .inr ⟨rfl, Nat.le_refl _⟩
  · exact of_decide_eq_true (List.rel_of_pairwise_cons sorted behind)

theorem startsSame (same : ∀ s ∈ started agent tasks, InWindow w later s ↔ InWindow w now s) :
    startsWithin agent tasks w later = startsWithin agent tasks w now := by
  rw [startsWindow, startsWindow]
  exact congrArg (List.mergeSort · _) (List.filter_congr fun s inside => decide_eq_decide.mpr (same s inside))

theorem startsFewer (narrower : ∀ s ∈ started agent tasks, InWindow w later s → InWindow w now s)
    (counted : s ∈ startsWithin agent tasks w now) (missed : ¬ InWindow w later s) :
    (startsWithin agent tasks w later).length < (startsWithin agent tasks w now).length := by
  have nested : (started agent tasks).filter (fun s => decide (InWindow w later s)) =
      ((started agent tasks).filter fun s => decide (InWindow w now s)).filter
        fun s => decide (InWindow w later s) := by
    rw [List.filter_filter]
    refine List.filter_congr fun s inside => ?_
    by_cases still : InWindow w later s
    · simp [still, narrower s inside still]
    · simp [still]
  obtain ⟨inside, recent⟩ := inStarts.mp counted
  rw [startsWindow, startsWindow, List.length_mergeSort, List.length_mergeSort, nested]
  refine List.length_filter_lt_length_iff_exists.mpr ⟨s, ?_, ?_⟩
  · exact List.mem_filter.mpr ⟨inside, decide_eq_true recent⟩
  · exact fun still => missed (of_decide_eq_true still)

/-- By a clock without leap seconds, the oldest start that a quota counts is counted until the instant told as
its expiry, and at that instant. The same starts are counted until then and fewer afterwards, so that a
quota that was just used up is so then too, and no longer. -/
theorem expiryInclusive (plain : now.Plain)
    (clocked : ∀ t ∈ tasks, ∀ s, t.status.startTime = some s → s.Plain ∧ s ≤ now)
    (expires : (checkQuota agent quota tasks now).nextExpiry = some e) :
    e.Plain ∧ now ≤ e ∧
    (∀ t : Instant, t.Plain → now ≤ t → t ≤ e →
      startsWithin agent tasks (window quota) t = startsWithin agent tasks (window quota) now ∧
        checkQuota agent quota tasks t = checkQuota agent quota tasks now) ∧
    ∀ t : Instant, t.Plain → e < t →
      (startsWithin agent tasks (window quota) t).length < (startsWithin agent tasks (window quota) now).length ∧
      ((startsWithin agent tasks (window quota) now).length ≤ quota.maxTaskStarts.toNat →
        (checkQuota agent quota tasks t).isBlocked = false) := by
  obtain ⟨oldest, first, rfl⟩ := Option.map_eq_some_iff.mp expires
  obtain ⟨counted, least⟩ := oldestFirst first
  obtain ⟨begun, since, past⟩ := inStarts.mp counted
  have before {s : Instant} (inside : s ∈ started agent tasks) : s.Plain ∧ s ≤ now := by
    obtain ⟨t, known, start⟩ := startedBy inside
    exact clocked t known s start
  have clear : oldest.Plain := (before begun).1
  have ahead : now ≤ oldest.shift ((window quota).nanoseconds : Int) := (Instant.shiftLe plain clear _).mpr since
  -- a window that ends later begins later, and no start lies after its end
  have narrower {t : Instant} (order : now ≤ t) (s : Instant) (inside : s ∈ started agent tasks)
      (recent : InWindow (window quota) t s) : InWindow (window quota) now s :=
    ⟨Instant.sameOrEarlier (Instant.secondsBack plain order _) recent.1, (before inside).2⟩
  refine ⟨(Instant.shiftPlain clear _).1, ahead, fun t clock order early => ?_, fun t clock late => ?_⟩
  · have back : t.shift (-((window quota).nanoseconds : Int)) ≤ oldest := (Instant.shiftLe clock clear _).mp early
    have same : startsWithin agent tasks (window quota) t = startsWithin agent tasks (window quota) now := by
      refine startsSame fun s inside => ⟨narrower order s inside, fun recent => ⟨?_, ?_⟩⟩
      · exact Instant.sameOrEarlier back (least s (inStarts.mpr ⟨inside, recent⟩))
      · exact Instant.sameOrEarlier recent.2 order
    refine ⟨same, ?_⟩
    unfold checkQuota
    rw [same]
  · have order : now ≤ t := Instant.sameOrEarlier ahead (Instant.earlier late)
    have gone : ¬ InWindow (window quota) t oldest := fun recent =>
      Instant.dueNotEarly ((Instant.shiftLe clock clear _).mpr recent.1) late
    have fewer := startsFewer (narrower order) counted gone
    refine ⟨fewer, fun used => ?_⟩
    have free : (startsWithin agent tasks (window quota) t).length < quota.maxTaskStarts.toNat :=
      Nat.lt_of_lt_of_le fewer used
    simp only [checkQuota, QuotaCheck.isBlocked, Headroom.ofUsage, Headroom.exceeds, Bool.not_eq_false',
      decide_eq_true_eq]
    omega

end

def sole : Task := { Task.bare ⟨"ns", "task"⟩ "agent" with status := { TaskStatus.fresh with startTime := some default } }

theorem soleClocked : ∀ t ∈ [sole], ∀ s, t.status.startTime = some s → s.Plain ∧ s ≤ default := by
  intro t inside s start
  cases List.mem_singleton.mp inside
  cases start
  decide

theorem soleUsedUp :
    (checkQuota ⟨"ns", "agent"⟩ ⟨1, 60⟩ [sole] default).nextExpiry =
      some ((default : Instant).after (.ofSeconds 60)) ∧
    (checkQuota ⟨"ns", "agent"⟩ ⟨1, 60⟩ [sole] ((default : Instant).after (.ofSeconds 60))).isBlocked = true ∧
    (checkQuota ⟨"ns", "agent"⟩ ⟨1, 60⟩ [sole] ((default : Instant).after (.ofSeconds 61))).isBlocked = false := by
  have expires : (checkQuota ⟨"ns", "agent"⟩ ⟨1, 60⟩ [sole] default).nextExpiry =
      some ((default : Instant).after (.ofSeconds 60)) := by
    decide +kernel
  have blocked : (checkQuota ⟨"ns", "agent"⟩ ⟨1, 60⟩ [sole] default).isBlocked = true := by decide +kernel
  have plain : (default : Instant).Plain := by decide
  obtain ⟨clock, order, still, freed⟩ := expiryInclusive plain soleClocked expires
  have same := (still _ clock order (by decide +kernel)).2
  have free := (freed ((default : Instant).after (.ofSeconds 61)) (by decide +kernel) (by decide +kernel)).2
  refine ⟨expires, ?_, free (by decide +kernel)⟩
  rw [same]
  exact blocked

theorem expiryMissed : ¬ ∀ (agent : Key) (quota : AgentQuota) (tasks : List Task) (now e : Instant),
    (∀ t ∈ tasks, ∀ s, t.status.startTime = some s → s ≤ now) →
    (checkQuota agent quota tasks now).nextExpiry = some e →
    (∀ t : Instant, now ≤ t → t < e → (startsWithin agent tasks (window quota) t).length =
      (startsWithin agent tasks (window quota) now).length) ∧
    (startsWithin agent tasks (window quota) e).length < (startsWithin agent tasks (window quota) now).length := by
  intro claim
  have fewer := (claim ⟨"ns", "agent"⟩ ⟨1, 60⟩ [sole] default ((default : Instant).after (.ofSeconds 60))
    (fun t inside s start => (soleClocked t inside s start).2) (by decide +kernel)).2
  revert fewer
  decide +kernel

end Admission
end Turnstile
