import Mathlib.Data.List.DropRight
import Turnstile.Text.Blank
/-! Text without blanks at its ends, and without any. -/
namespace Turnstile.Text
variable {s t : List Char}

theorem trimRightBlank (blank : ∀ c ∈ t, isBlank c = true) : trimRight (s ++ t) = trimRight s := by
  unfold trimRight
  rw [List.reverse_append, List.dropWhile_append_of_pos fun c inside => blank c (List.mem_reverse.mp inside)]

theorem trimRightDark (dark : ¬ ∀ c ∈ t, isBlank c = true) : trimRight (s ++ t) = s ++ trimRight t := by
  have left : ¬ (t.reverse.dropWhile isBlank).isEmpty = true := by
    simpa [List.dropWhile_eq_nil_iff] using dark
  unfold trimRight
  rw [List.reverse_append, List.dropWhile_append, if_neg left, List.reverse_append, List.reverse_reverse]

theorem trimRightNil (blank : ∀ c ∈ t, isBlank c = true) : trimRight t = [] :=
  trimRightBlank (s := []) blank

theorem trimRightCons {c : Char} (dark : isBlank c = false) (s : List Char) :
    trimRight (c :: s) = c :: trimRight s := by
  by_cases blank : ∀ d ∈ s, isBlank d = true
  · rw [← List.singleton_append, trimRightBlank blank, trimRightNil blank]
    simp [trimRight, dark]
  · rw [← List.singleton_append, trimRightDark blank]
    rfl

theorem trimRightIff : trimRight s = s ↔ ∀ c ∈ s.getLast?, isBlank c = false := by
  refine List.rdropWhile_eq_self_iff.trans ⟨fun dark c last => ?_, fun dark some_ => ?_⟩
  · obtain ⟨front, rfl⟩ := List.getLast?_eq_some_iff.mp last
    simpa using dark (by simp)
  · simpa using dark _ (List.getLast?_eq_some_getLast some_)

theorem blankTrimLeft : (∀ c ∈ trimLeft s, isBlank c = true) ↔ ∀ c ∈ s, isBlank c = true := by
  constructor
  · intro blank c inside
    rw [← List.takeWhile_append_dropWhile (p := isBlank) (l := s)] at inside
    rcases List.mem_append.mp inside with front | back
    · exact List.mem_takeWhile_imp front
    · exact blank c back
  · exact fun blank c inside => blank c ((List.dropWhile_suffix isBlank).mem inside)

def dark (s : List Char) : List Char := s.filter fun c => !isBlank c

@[simp] theorem darkAppend (s t : List Char) : dark (s ++ t) = dark s ++ dark t :=
  List.filter_append s t

theorem darkNil (blank : ∀ c ∈ s, isBlank c = true) : dark s = [] := by
  simpa [dark] using blank

@[simp] theorem darkTrimRight (s : List Char) : dark (trimRight s) = dark s := by
  have parts := darkAppend (s.rdropWhile isBlank) (s.rtakeWhile isBlank)
  rw [List.rdropWhile_append_rtakeWhile, darkNil fun c inside => List.mem_rtakeWhile_imp inside,
    List.append_nil] at parts
  exact parts.symm

end Turnstile.Text
