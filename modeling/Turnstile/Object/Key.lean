import Turnstile.SortedMap
/-! Names of stored objects. -/
namespace Turnstile
open Std

structure Key where
  ns : String
  name : String
  deriving DecidableEq, Repr

namespace Key

instance : Ord Key := ⟨compareLex (compareOn Key.ns) (compareOn Key.name)⟩

instance : TransOrd Key :=
  inferInstanceAs (TransCmp (compareLex (compareOn Key.ns) (compareOn Key.name)))

instance : LawfulEqOrd Key where
  eq_of_compare {a b} h := by
    have both : compareOn Key.ns a b = .eq ∧ compareOn Key.name a b = .eq :=
      Ordering.then_eq_eq.mp h
    cases a; cases b
    simp only [compareOn] at both
    rw [LawfulEqOrd.eq_of_compare both.1, LawfulEqOrd.eq_of_compare both.2]

instance : Inhabited Key := ⟨⟨"", ""⟩⟩

def text (k : Key) : String := k.ns ++ "/" ++ k.name

end Key

structure Reference where
  name : String
  ns : Option String
  deriving DecidableEq, Repr

def Reference.resolve (r : Reference) (home : String) : Key := ⟨r.ns.getD home, r.name⟩

end Turnstile
