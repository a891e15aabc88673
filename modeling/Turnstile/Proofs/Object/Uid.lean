import Mathlib.Algebra.Group.Nat.Defs
import Turnstile.Object.Uid
/-! Identities written and read back. -/
namespace Turnstile

theorem Json.hexValueOfDigit {d : Nat} (small : d < 16) : hexValue? (hexDigit d) = some d := by
  have each : ∀ d : Fin 16, hexValue? (hexDigit d) = some d.val := by decide
  exact each ⟨d, small⟩

namespace Uid

theorem hexDigitsLength (count n : Nat) : (hexDigits count n).length = count := by
  induction count generalizing n with
  | zero => rfl
  | succ count ih => simp [hexDigits, ih]

theorem ofHexDigits (count n : Nat) :
    (hexDigits count n).foldl
      (fun acc c => acc.bind fun n => (Json.hexValue? c).map (n * 16 + ·)) (some 0) =
        some (n % 16 ^ count) := by
  induction count generalizing n with
  | zero => simp [hexDigits, Nat.mod_one]
  | succ count ih =>
    have last := Json.hexValueOfDigit (Nat.mod_lt n (by decide : 16 > 0))
    have split_ : n / 16 % 16 ^ count * 16 + n % 16 = n % 16 ^ (count + 1) := by
      rw [Nat.pow_succ, Nat.mul_comm (16 ^ count), Nat.mod_mul]
      omega
    rw [hexDigits, List.foldl_append, ih]
    simp [last, split_]

theorem ofHyphenated {a b c d e : List Char} (first : a.length = 8) (second : b.length = 4)
    (third : c.length = 4) (fourth : d.length = 4) (fifth : e.length = 12) :
    ofHyphenated? (a ++ '-' :: b ++ '-' :: c ++ '-' :: d ++ '-' :: e) =
      ofHex? (a ++ b ++ c ++ d ++ e) := by
  simp (disch := omega) [ofHyphenated?, List.drop_append, List.drop_eq_nil_of_le, first, second,
    third, fourth, fifth]

theorem readText (u : Uid) : ofText? u.toText = some u := by
  have length := hexDigitsLength 32 u.bits.toNat
  have whole := ofHexDigits 32 u.bits.toNat
  have small : u.bits.toNat < 16 ^ 32 := u.bits.isLt
  rw [Nat.mod_eq_of_lt small] at whole
  unfold toText ofText?
  generalize hexDigits 32 u.bits.toNat = d at length whole
  have joined : d.take 8 ++ (d.drop 8).take 4 ++ (d.drop 12).take 4 ++ (d.drop 16).take 4 ++
      d.drop 20 = d := by
    rw [← List.take_add, ← List.take_add, ← List.take_add, List.take_append_drop]
  have parts : ofHyphenated? (d.take 8 ++ '-' :: (d.drop 8).take 4 ++ '-' :: (d.drop 12).take 4 ++
      '-' :: (d.drop 16).take 4 ++ '-' :: d.drop 20) = some u := by
    rw [ofHyphenated (by simp [length]) (by simp [length]) (by simp [length]) (by simp [length])
      (by simp [length]), joined, ofHex?, whole]
    simp [ofNat]
  simp only [String.toList_ofList]
  rw [if_neg (by simp [length]), if_pos (by simp [length])]
  exact parts

end Uid
end Turnstile
