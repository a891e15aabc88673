import Turnstile.Filter.Engine
/-! Filters that are refused because they could never be a boolean. Arithmetic gives a number, null
or a text on every pair of values, so no such filter would have decided any request. -/
namespace Turnstile
namespace Filter
open Filter.Expr

def NoBoolean (j : Json) : Prop := ∀ b, j ≠ .bool b

section
variable {op : Operator} {j : Json}

theorem numberNoBoolean (x : Float) : NoBoolean (numberJson x) := by
  unfold numberJson
  split <;> exact nofun

theorem arithmeticNoBoolean (calculates : op.isArithmetic = true) {a b : Float}
    (given : arithmetic op a b = some j) : NoBoolean j := by
  cases op with
  | add | subtract | multiply | divide | floorDivide | modulus | exponent =>
    cases given
    exact numberNoBoolean _
  | _ => cases calculates

theorem textualNoBoolean (calculates : op.isArithmetic = true) {a b : String}
    (given : textual op a b = some j) : NoBoolean j := by
  cases op with
  | add =>
    cases given
    exact nofun
  | subtract | multiply | divide | floorDivide | modulus | exponent => cases given
  | _ => cases calculates

theorem generalNone (calculates : op.isArithmetic = true) (left right : Json) :
    general op left right = none := by
  cases op with
  | add | subtract | multiply | divide | floorDivide | modulus | exponent => rfl
  | _ => cases calculates

theorem applyNoBoolean (calculates : op.isArithmetic = true) {left right : Json}
    (given : apply op left right = .ok j) : NoBoolean j := by
  unfold apply at given
  extract_lets result at given
  cases found : result with
  | none =>
    rw [found] at given
    cases given
  | some k =>
    rw [found] at given
    cases given
    -- numbers first, then two texts, then whatever is left
    simp only [result] at found
    split at found
    · exact arithmeticNoBoolean calculates found
    · split at found
      · exact textualNoBoolean calculates found
      · rw [generalNone calculates] at found
        cases found

end

section
variable {c : Context} {op : Operator} {left right : Expr} {j : Json}

theorem evalCalculated (calculates : op.isArithmetic = true)
    (given : (Expr.binary op left right).eval c = .ok j) :
    ∃ l r, left.eval c = .ok l ∧ right.eval c = .ok r ∧ apply op l r = .ok j := by
  cases op with
  | add | subtract | multiply | divide | floorDivide | modulus | exponent =>
    simp only [eval] at given
    split at given
    · cases given
    · rename_i l first
      split at given
      · cases given
      · rename_i r second
        exact ⟨l, r, first, second, given⟩
  | _ => cases calculates

theorem evalBranch {condition truthy falsy : Expr}
    (given : (Expr.conditional condition truthy falsy).eval c = .ok j) :
    truthy.eval c = .ok j ∨ falsy.eval c = .ok j := by
  rw [eval] at given
  split at given
  · split at given
    · exact .inl given
    · exact .inr given
  · exact .inr given

theorem Expr.evalNoBoolean : (e : Expr) → e.neverBoolean = true → ∀ {j}, e.eval c = .ok j → NoBoolean j
  | .null, _, _, given | .string _, _, _, given => by
    cases given
    exact nofun
  | .number _, _, _, given => by
    cases given
    exact numberNoBoolean _
  | .array items, _, _, given => by
    rw [eval] at given
    split at given <;> cases given
    exact nofun
  | .object members, _, _, given => by
    rw [eval] at given
    split at given <;> cases given
    exact nofun
  | .binary _ _ _, calculates, _, given => by
    obtain ⟨l, r, -, -, applied⟩ := evalCalculated calculates given
    exact applyNoBoolean calculates applied
  | .conditional _ truthy falsy, never, _, given => by
    have both := (Bool.and_eq_true _ _).mp never
    rcases evalBranch given with taken | taken
    · exact truthy.evalNoBoolean both.1 taken
    · exact falsy.evalNoBoolean both.2 taken

end

section
variable {source : String} {f : Filter}

theorem refusedIff : compile source = .error .notBooleanProgram ↔
    ∃ e, parse source = .ok e ∧ e.unknown? = none ∧ e.neverBoolean = true := by
  constructor
  · intro refused
    unfold compile at refused
    split at refused
    · cases refused
    · cases refused
    · rename_i e parsed
      split at refused
      · cases refused
      · rename_i known
        split at refused
        · rename_i never
          exact ⟨e, parsed, known, never⟩
        · cases refused
  · rintro ⟨e, parsed, known, never⟩
    unfold compile
    simp only [parsed, known, never, if_true]

theorem evaluateNoBoolean (never : f.expr.neverBoolean = true) (body headers : Json) :
    ∃ failure, f.evaluate body headers = .error failure := by
  unfold evaluate evaluateIn
  split
  · exact ⟨_, rfl⟩
  · rename_i b given
    exact absurd rfl (f.expr.evalNoBoolean never given b)
  · exact ⟨_, rfl⟩

/-- What the check calls never boolean has no boolean value in any context, so that a filter it
refuses would have failed on every request. -/
theorem refusedIsUseless :
    (∀ e : Expr, e.neverBoolean = true → ∀ (c : Context) (b : Bool), e.eval c ≠ .ok (.bool b)) ∧
    (∀ source, compile source = .error .notBooleanProgram → ∃ e, parse source = .ok e ∧
      ∀ body headers, ∃ failure, Filter.evaluate ⟨source, e⟩ body headers = .error failure) := by
  refine ⟨fun e never c b given => e.evalNoBoolean never given b rfl, fun source refused => ?_⟩
  obtain ⟨e, parsed, -, never⟩ := refusedIff.mp refused
  exact ⟨e, parsed, evaluateNoBoolean never⟩

def branched : String := "body.a[.b > 1] ? (body.n * 2) : (headers.x ? 'yes' : [true])"

theorem branchedIsUseless : compile branched = .error .notBooleanProgram ∧
    ∃ e, parse branched = .ok e ∧ e.neverBoolean = true ∧
      e.eval (Context.ofRequest (.object []) (.object [])) ≠ .ok (.bool true) ∧
      ∃ failure, Filter.evaluate ⟨branched, e⟩ (.object []) (.object []) = .error failure := by
  have checked : (parse branched).toOption.any (fun e => e.unknown?.isNone && e.neverBoolean) = true := by
    decide +kernel
  cases parsed : parse branched with
  | error e =>
    rw [parsed] at checked
    cases checked
  | ok e =>
    rw [parsed] at checked
    obtain ⟨known, never⟩ := Bool.and_eq_true_iff.mp checked
    have refused := refusedIff.mpr ⟨e, parsed, Option.isNone_iff_eq_none.mp known, never⟩
    obtain ⟨e', parsed', fails⟩ := refusedIsUseless.2 branched refused
    cases parsed.symm.trans parsed'
    exact ⟨refused, e, rfl, never, refusedIsUseless.1 e never _ true, fails _ _⟩

end

end Filter
end Turnstile
