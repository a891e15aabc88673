/-! Records of what happened, the oldest first, and what has not been undone since. -/
namespace Turnstile

def Since {α : Type} (happens undoes : α → Prop) (log : List α) : Prop :=
  ∃ earlier a later, log = earlier ++ a :: later ∧ happens a ∧ ∀ b ∈ later, ¬ undoes b

section
variable {α : Type} {happens undoes : α → Prop} {log : List α} {last : α}

theorem lastSplit {earlier later : List α} {a : α} (same : log ++ [last] = earlier ++ a :: later) :
    (later = [] ∧ a = last ∧ log = earlier) ∨
      ∃ between, later = between ++ [last] ∧ log = earlier ++ a :: between := by
  rcases later.eq_nil_or_concat with rfl | ⟨between, x, rfl⟩
  · obtain ⟨front, single⟩ := List.append_inj' same rfl
    cases single
    exact .inl ⟨rfl, rfl, front⟩
  · rw [List.concat_eq_append, ← List.cons_append, ← List.append_assoc] at same
    obtain ⟨front, single⟩ := List.append_inj' same rfl
    cases single
    exact .inr ⟨between, List.concat_eq_append, front⟩

theorem sinceMore : Since happens undoes (log ++ [last]) ↔
    happens last ∨ (Since happens undoes log ∧ ¬ undoes last) := by
  constructor
  · rintro ⟨earlier, a, later, same, holds, free⟩
    rcases lastSplit same with ⟨-, rfl, -⟩ | ⟨between, rfl, front⟩
    · exact .inl holds
    · have before : ∀ b ∈ between, ¬ undoes b := fun b inside => free b (by simp [inside])
      exact .inr ⟨⟨earlier, a, between, front, holds, before⟩, free last (by simp)⟩
  · rintro (holds | ⟨⟨earlier, a, later, rfl, holds, free⟩, kept⟩)
    · exact ⟨log, last, [], rfl, holds, by simp⟩
    · refine ⟨earlier, a, later ++ [last], by simp, holds, fun b inside => ?_⟩
      rcases List.mem_append.mp inside with before | same
      · exact free b before
      · rwa [List.mem_singleton.mp same]

theorem notSinceNothing : ¬ Since happens undoes [] := by
  rintro ⟨earlier, a, later, same, -⟩
  cases earlier <;> cases same

theorem Since.happened (since : Since happens undoes log) : ∃ a ∈ log, happens a := by
  obtain ⟨earlier, a, later, rfl, holds, -⟩ := since
  exact ⟨a, by simp, holds⟩

end
end Turnstile
