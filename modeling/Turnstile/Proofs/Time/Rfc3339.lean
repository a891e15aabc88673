import Mathlib.Algebra.Group.Nat.Defs
import Mathlib.Data.List.TakeWhile
import Turnstile.Time.Rfc3339
import Turnstile.Proofs.Time.Calendar
/-! Instants written and read back. The text of an instant in a year of four
digits reads as that instant, also within a leap second. -/
namespace Turnstile.Instant

def year (t : Instant) : Int := (Civil.ofDays (t.second / 86400)).year

def FourDigitYear (t : Instant) : Prop := 0 ≤ t.year ∧ t.year ≤ 9999

instance (t : Instant) : Decidable t.FourDigitYear :=
  inferInstanceAs (Decidable (_ ∧ _))

section Digits

theorem paddedChars (width n : Nat) :
    (padded width n).toList =
      List.replicate (width - (Nat.toDigits 10 n).length) '0' ++ Nat.toDigits 10 n := by
  simp [padded, ← String.length_toList, Nat.toList_repr]

theorem paddedDigits {width n : Nat} : ∀ c ∈ (padded width n).toList, c.isDigit = true := by
  intro c inside
  rw [paddedChars, List.mem_append] at inside
  rcases inside with zero | digit
  · rw [List.eq_of_mem_replicate zero]
    rfl
  · exact Nat.isDigit_of_mem_toDigits (by decide) (by decide) digit

theorem paddedLength {width n : Nat} (some_ : 0 < width) (fits : n < 10 ^ width) :
    (padded width n).toList.length = width := by
  have short := (Nat.length_toDigits_le_iff (by decide) some_).mpr fits
  rw [paddedChars, List.length_append, List.length_replicate]
  omega

theorem paddedValue (width n : Nat) :
    (padded width n).toList.foldl (fun n c => n * 10 + (c.toNat - 48)) 0 = n := by
  have digits : Nat.ofDigitChars 10 (padded width n).toList 0 = n := by
    rw [paddedChars, Nat.ofDigitChars_append, Nat.ofDigitChars_replicate_zero, Nat.mul_zero,
      Nat.ofDigitChars_ten_toDigits]
  simp only [Nat.ofDigitChars_eq_foldl, Nat.mul_comm 10] at digits
  exact digits

-- A digit is no blank, so nothing is trimmed before it.
theorem trimDigit {c : Char} (digit : c.isDigit = true) (s : List Char) :
    Text.trimLeft (c :: s) = c :: s := by
  have range : 48 ≤ c.toNat ∧ c.toNat ≤ 57 := by
    simpa [Char.isDigit, UInt32.le_iff_toNat_le] using digit
  have dark : Text.isBlank c = false := by
    simp only [Text.isBlank, Bool.or_eq_false_iff, Bool.and_eq_false_iff, decide_eq_false_iff_not]
    omega
  rw [Text.trimLeft, List.dropWhile_cons_of_neg (by simp [dark])]

theorem paddedCons {width n : Nat} (some_ : 0 < width) (fits : n < 10 ^ width) :
    ∃ c rest, (padded width n).toList = c :: rest ∧ c.isDigit = true := by
  have length := paddedLength some_ fits
  match chars : (padded width n).toList with
  | [] =>
    rw [chars] at length
    exact absurd length (Nat.ne_of_lt some_)
  | c :: rest => exact ⟨c, rest, rfl, paddedDigits c (by rw [chars]; exact List.mem_cons_self)⟩

theorem trimPadded {width n : Nat} (some_ : 0 < width) (fits : n < 10 ^ width) (rest : List Char) :
    Text.trimLeft ((padded width n).toList ++ rest) = (padded width n).toList ++ rest := by
  obtain ⟨c, tail, chars, digit⟩ := paddedCons some_ fits
  rw [chars, List.cons_append, trimDigit digit]

theorem numberPadded {width n : Nat} (some_ : 0 < width) (fits : n < 10 ^ width)
    (rest : List Char) : number? width ((padded width n).toList ++ rest) = some (n, rest) := by
  have length := paddedLength some_ fits
  have taken : (((padded width n).toList ++ rest).take width).takeWhile Char.isDigit =
      (padded width n).toList := by
    rw [List.take_left' length, List.takeWhile_eq_self_iff]
    exact paddedDigits
  have any : (padded width n).toList.isEmpty = false := by
    rw [List.isEmpty_eq_false_iff, ← List.length_pos_iff, length]
    exact some_
  simp only [number?, trimPadded some_ fits, taken, any, paddedValue, Bool.false_eq_true, if_false,
    List.drop_left]

theorem yearPadded {n : Nat} (fits : n < 10 ^ 4) (rest : List Char) :
    year? ((padded 4 n).toList ++ rest) = some ((n : Int), rest) := by
  obtain ⟨c, tail, chars, digit⟩ := paddedCons (by decide) fits
  have read := numberPadded (by decide) fits rest
  have trimmed := trimPadded (by decide) fits rest
  rw [chars, List.cons_append] at read trimmed ⊢
  unfold year?
  rw [trimmed]
  split
  · rename_i minus
    rw [(List.cons.inj minus).1] at digit
    cases digit
  · rename_i plus
    rw [(List.cons.inj plus).1] at digit
    cases digit
  · rw [read]
    rfl

end Digits

section Marks

theorem markNext {c : Char} (dark : Text.isBlank c = false) (s : List Char) :
    mark? c (c :: s) = some s := by
  rw [mark?, Text.trimLeft, List.dropWhile_cons_of_neg (by simp [dark])]
  exact if_pos rfl

theorem fractionGroups {width n : Nat} (some_ : 0 < width) (within : width ≤ 9)
    (fits : n < 10 ^ width) (rest : List Char) :
    fraction? ('.' :: ((padded width n).toList ++ 'Z' :: rest)) =
      some (n * 10 ^ (9 - width), 'Z' :: rest) := by
  have length := paddedLength some_ fits
  have taken : ((padded width n).toList ++ 'Z' :: rest).takeWhile Char.isDigit =
      (padded width n).toList := by
    rw [List.takeWhile_append_of_pos paddedDigits, List.takeWhile_cons_of_neg (by decide),
      List.append_nil]
  have dropped : ((padded width n).toList ++ 'Z' :: rest).dropWhile Char.isDigit = 'Z' :: rest := by
    rw [List.dropWhile_append_of_pos paddedDigits, List.dropWhile_cons_of_neg (by decide)]
  have kept : (padded width n).toList.take 9 = (padded width n).toList :=
    List.take_of_length_le (by omega)
  have any : (padded width n).toList.isEmpty = false := by
    rw [List.isEmpty_eq_false_iff, ← List.length_pos_iff, length]
    exact some_
  simp only [fraction?, taken, dropped, kept, any, paddedValue, length, Bool.false_eq_true, if_false]
  rfl

theorem fractionDot {width n nano : Nat} (some_ : 0 < width) (within : width ≤ 9)
    (fits : n < 10 ^ width) (exact_ : n * 10 ^ (9 - width) = nano) (rest : List Char) :
    fraction? (("." ++ padded width n).toList ++ 'Z' :: rest) = some (nano, 'Z' :: rest) := by
  have point : ("." ++ padded width n).toList = '.' :: (padded width n).toList := by
    rw [String.toList_append]
    rfl
  rw [point, List.cons_append, fractionGroups some_ within fits, exact_]

theorem fractionWritten {nano : Nat} (within : nano < 1000000000) (rest : List Char) :
    fraction? ((fractionText nano).toList ++ 'Z' :: rest) = some (nano, 'Z' :: rest) := by
  unfold fractionText
  split
  · rename_i none_
    rw [none_]
    rfl
  split
  · exact fractionDot (by decide) (by decide) (by omega) (by omega) rest
  split
  · exact fractionDot (by decide) (by decide) (by omega) (by omega) rest
  · exact fractionDot (by decide) (by decide) (by omega) (by omega) rest

end Marks

theorem dayOfYear {days : Int} (year : 0 ≤ (Civil.ofDays days).year ∧ (Civil.ofDays days).year ≤ 9999) :
    -1000000 ≤ days ∧ days ≤ 3300000 := by
  obtain ⟨era, y, d, m, at_, date⟩ := Civil.placed days
  obtain ⟨day, years, inYear, -, -, -⟩ := at_
  rw [date] at year
  simp only [Civil.dated] at year
  simp only [Civil.yearStart] at day
  split at year <;> dsimp only at year <;> omega

theorem textChars {t : Instant} (four : t.FourDigitYear) :
    t.toText.toList =
      (padded 4 t.year.toNat).toList ++ '-' ::
        ((padded 2 (Civil.ofDays (t.second / 86400)).month).toList ++ '-' ::
          ((padded 2 (Civil.ofDays (t.second / 86400)).day).toList ++ 'T' ::
            ((padded 2 (t.secondOfDay.toNat / 3600)).toList ++ ':' ::
              ((padded 2 (t.secondOfDay.toNat / 60 % 60)).toList ++ ':' ::
                ((padded 2 (t.secondOfDay.toNat % 60 + if 1000000000 ≤ t.nano then 1 else 0)).toList ++
                  ((fractionText (if 1000000000 ≤ t.nano then t.nano - 1000000000 else t.nano)).toList ++
                    'Z' :: [])))))) := by
  have years : yearText (Civil.ofDays (t.second / 86400)).year = padded 4 t.year.toNat := by
    obtain ⟨low, high⟩ := four
    change 0 ≤ (Civil.ofDays (t.second / 86400)).year at low
    change (Civil.ofDays (t.second / 86400)).year ≤ 9999 at high
    simp [yearText, low, high, year]
  have marks : "-".toList = ['-'] ∧ "T".toList = ['T'] ∧ ":".toList = [':'] ∧ "Z".toList = ['Z'] :=
    ⟨rfl, rfl, rfl, rfl⟩
  simp only [toText, years, String.toList_append, List.append_assoc, marks, List.cons_append,
    List.nil_append]

section Fields
variable {t : Instant} {date : Civil.Date} {hour minute second nano : Nat}

theorem plainFields (told : first ≤ t ∧ t ≤ last) (valid : Civil.valid date = true)
    (clock : hour ≤ 23 ∧ minute ≤ 59 ∧ second ≤ 59) (fraction : nano < 1000000000)
    (seconds : Civil.toDays date * 86400 + (hour * 3600 + minute * 60 : Nat) + second = t.second)
    (nanos : nano = t.nano) : ofFields date hour minute second nano 0 = some t := by
  have start : Civil.toDays date * 86400 + (hour * 3600 + minute * 60 : Nat) - 0 * 60 + second =
      t.second := by omega
  have apart : ¬ second = 60 := by omega
  unfold ofFields
  simp only [valid, Bool.not_true, Bool.false_or, Bool.or_eq_true, decide_eq_true_eq]
  rw [if_neg (by omega), dif_pos fraction, dif_neg (fun h => apart h.1)]
  simp only [start, nanos, told, decide_true, Bool.and_self, if_true]

theorem leapFields (told : first ≤ t ∧ t ≤ last) (valid : Civil.valid date = true)
    (clock : hour ≤ 23 ∧ minute ≤ 59) (fraction : nano < 1000000000)
    (seconds : Civil.toDays date * 86400 + (hour * 3600 + minute * 60 : Nat) + 59 = t.second)
    (nanos : nano + 1000000000 = t.nano) : ofFields date hour minute 60 nano 0 = some t := by
  have start : Civil.toDays date * 86400 + (hour * 3600 + minute * 60 : Nat) - 0 * 60 + 59 =
      t.second := by omega
  unfold ofFields
  simp only [valid, Bool.not_true, Bool.false_or, Bool.or_eq_true, decide_eq_true_eq]
  rw [if_neg (by omega), dif_pos fraction, dif_pos ⟨trivial, by omega⟩]
  simp only [start, nanos, told, decide_true, Bool.and_self, if_true]

theorem writtenFields (four : t.FourDigitYear) :
    ofFields (Civil.ofDays (t.second / 86400)) (t.secondOfDay.toNat / 3600)
      (t.secondOfDay.toNat / 60 % 60)
      (t.secondOfDay.toNat % 60 + if 1000000000 ≤ t.nano then 1 else 0)
      (if 1000000000 ≤ t.nano then t.nano - 1000000000 else t.nano) 0 = some t := by
  have inSecond := t.inSecond
  have days := dayOfYear four
  have told : first ≤ t ∧ t ≤ last := by
    change (-8334601228800 < t.second ∨ _) ∧ (t.second < 8210266876799 ∨ _)
    exact ⟨.inl (by omega), .inl (by omega)⟩
  have stands := Civil.validOfDays (t.second / 86400)
  have back := Civil.toDaysOfDays (t.second / 86400)
  have ofDay : (t.secondOfDay.toNat : Int) = t.second % 86400 := by
    unfold secondOfDay
    omega
  by_cases leap : 1000000000 ≤ t.nano
  · have ends : t.secondOfDay.toNat % 60 + 1 = 60 := by omega
    simp only [if_pos leap, ends]
    exact leapFields told stands (by omega) (by omega) (by omega) (by omega)
  · simp only [if_neg leap, Nat.add_zero]
    exact plainFields told stands (by omega) (by omega) (by omega) rfl

end Fields

theorem fieldMark {α : Type} {n : Nat} {c : Char} {rest : List Char}
    {more : Nat × List Char → List Char → Option α} (fits : n < 10 ^ 2)
    (dark : Text.isBlank c = false) :
    ((number? 2 ((padded 2 n).toList ++ c :: rest)).bind fun field =>
      (mark? c field.2).bind (more field)) = more (n, c :: rest) rest := by
  rw [numberPadded (by decide) fits, Option.bind_some, markNext dark, Option.bind_some]

theorem readText {t : Instant} (four : t.FourDigitYear) : ofText? t.toText = some t := by
  have within := t.inSecond
  have ofDay : 0 ≤ t.secondOfDay ∧ t.secondOfDay < 86400 := by
    unfold secondOfDay
    omega
  obtain ⟨month, day⟩ := Civil.shortDate (t.second / 86400)
  have year : ((t.year.toNat : Nat) : Int) = (Civil.ofDays (t.second / 86400)).year :=
    Int.toNat_of_nonneg four.1
  unfold ofText?
  rw [textChars four, yearPadded (by have := four.2; omega)]
  dsimp only [Option.bind_eq_bind, Option.bind_some]
  rw [markNext (by decide), Option.bind_some, fieldMark (by omega) (by decide),
    numberPadded (by decide) (by omega), Option.bind_some]
  dsimp only
  rw [if_pos (by decide), fieldMark (by omega) (by decide), fieldMark (by omega) (by decide),
    numberPadded (by decide) (by split <;> omega), Option.bind_some,
    fractionWritten (by split <;> omega), Option.bind_some]
  dsimp only
  rw [year]
  exact writtenFields four

end Turnstile.Instant
