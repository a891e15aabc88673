import Turnstile.Filter.Engine
/-! The variables of a filter. An expression is evaluated by them alone, and a filter that compiles
has no others than the payload and the headers. -/
namespace Turnstile
namespace Filter
open Filter.Expr
variable {c d : Context}

mutual

/-- The names that stand for variables. Those of members, keys, transforms and of the element
members that a selection compares do not. -/
def Expr.vars : Expr → List String
  | .null | .boolean _ | .number _ | .string _ => []
  | .array items => varsIn items
  | .object members => varsAmong members
  | .identifier name => [name]
  | .binary _ left right => left.vars ++ right.vars
  | .transform _ subject arguments => subject.vars ++ varsIn arguments
  | .member subject _ => subject.vars
  | .index subject at_ => subject.vars ++ at_.vars
  | .select subject _ _ right => subject.vars ++ right.vars
  | .conditional condition truthy falsy =>
    condition.vars ++ (truthy.vars ++ falsy.vars)

def varsIn : List Expr → List String
  | [] => []
  | e :: rest => e.vars ++ varsIn rest

def varsAmong : List (String × Expr) → List String
  | [] => []
  | (_, e) :: rest => e.vars ++ varsAmong rest

end

def isUnknown (name : String) : Bool := !contextNames.contains name

mutual

theorem Expr.unknownFound : (e : Expr) → e.unknown? = e.vars.find? isUnknown
  | .null | .boolean _ | .number _ | .string _ => rfl
  | .array items => unknownInFound items
  | .object members => unknownAmongFound members
  | .identifier name => by
    rw [unknown?, vars, List.find?_singleton, isUnknown]
    cases contextNames.contains name <;> rfl
  | .binary _ left right => by
    rw [unknown?, vars, List.find?_append, left.unknownFound, right.unknownFound]
  | .transform _ subject arguments => by
    rw [unknown?, vars, List.find?_append, subject.unknownFound, unknownInFound arguments]
  | .member subject _ => subject.unknownFound
  | .index subject at_ => by
    rw [unknown?, vars, List.find?_append, subject.unknownFound, at_.unknownFound]
  | .select subject _ _ right => by
    rw [unknown?, vars, List.find?_append, subject.unknownFound, right.unknownFound]
  | .conditional condition truthy falsy => by
    rw [unknown?, vars, List.find?_append, List.find?_append, condition.unknownFound,
      truthy.unknownFound, falsy.unknownFound]

theorem unknownInFound : (es : List Expr) → unknownIn? es = (varsIn es).find? isUnknown
  | [] => rfl
  | e :: rest => by
    rw [unknownIn?, varsIn, List.find?_append, e.unknownFound, unknownInFound rest]

theorem unknownAmongFound : (ms : List (String × Expr)) →
    unknownAmong? ms = (varsAmong ms).find? isUnknown
  | [] => rfl
  | (_, e) :: rest => by
    rw [unknownAmong?, varsAmong, List.find?_append, e.unknownFound, unknownAmongFound rest]

end

def Agree (c d : Context) (names : List String) : Prop := ∀ name ∈ names, c name = d name

theorem Agree.left {names more : List String} (agree : Agree c d (names ++ more)) : Agree c d names :=
  fun name inside => agree name (List.mem_append_left more inside)

theorem Agree.right {names more : List String} (agree : Agree c d (names ++ more)) : Agree c d more :=
  fun name inside => agree name (List.mem_append_right names inside)

mutual

theorem Expr.evalAgree : (e : Expr) → Agree c d e.vars → e.eval c = e.eval d
  | .null, _ | .boolean _, _ | .number _, _ | .string _, _ => rfl
  | .array items, agree => by
    rw [eval, eval, evalItemsAgree items agree]
  | .object members, agree => by
    rw [eval, eval, evalMembersAgree [] members agree]
  | .identifier name, agree => by
    rw [eval, eval, agree name List.mem_cons_self]
  | .binary op left right, agree => by
    have first := left.evalAgree agree.left
    have second := right.evalAgree agree.right
    cases op <;> simp only [eval, first, second]
  | .transform _ subject arguments, agree => by
    rw [eval, eval, subject.evalAgree agree.left, evalItemsAgree arguments agree.right]
  | .member subject _, agree => by
    rw [eval, eval, subject.evalAgree agree]
  | .index subject at_, agree => by
    rw [eval, eval, subject.evalAgree agree.left, at_.evalAgree agree.right]
  | .select subject _ _ right, agree => by
    rw [eval, eval, subject.evalAgree agree.left, right.evalAgree agree.right]
  | .conditional condition truthy falsy, agree => by
    rw [eval, eval, condition.evalAgree agree.left, truthy.evalAgree agree.right.left,
      falsy.evalAgree agree.right.right]

theorem evalItemsAgree : (es : List Expr) → Agree c d (varsIn es) → evalItems c es = evalItems d es
  | [], _ => rfl
  | e :: rest, agree => by
    rw [evalItems, evalItems, e.evalAgree agree.left, evalItemsAgree rest agree.right]

theorem evalMembersAgree (seen : List String) : (ms : List (String × Expr)) →
    Agree c d (varsAmong ms) → evalMembers c seen ms = evalMembers d seen ms
  | [], _ => rfl
  | (key, e) :: rest, agree => by
    rw [evalMembers, evalMembers, e.evalAgree agree.left,
      evalMembersAgree (key :: seen) rest agree.right]

end

def Defines (c : Context) (names : List String) : Prop := ∀ name ∈ names, ∃ j, c name = some j

theorem Defines.left {names more : List String} (defines : Defines c (names ++ more)) : Defines c names :=
  fun name inside => defines name (List.mem_append_left more inside)

theorem Defines.right {names more : List String} (defines : Defines c (names ++ more)) : Defines c more :=
  fun name inside => defines name (List.mem_append_right names inside)

def Bound {α : Type} (r : Except EvalError α) : Prop := ∀ name, r ≠ .error (.undefinedIdentifier name)

section
variable {α β : Type} {r : Except EvalError α} {e : EvalError}

theorem Bound.ok (a : α) : Bound (.ok a) := nofun

theorem Bound.failed (bound : Bound r) (failed : r = .error e) : Bound (.error e : Except EvalError β) := by
  intro name same
  exact bound name (failed.trans (congrArg _ (Except.error.inj same)))

theorem applyBound (op : Operator) (left right : Json) : Bound (apply op left right) := by
  unfold apply
  extract_lets result
  cases result with
  | some j => exact .ok j
  | none => exact fun _ same => nomatch same

theorem indexedBound (subject at_ : Json) : Bound (indexed subject at_) := by
  unfold indexed
  split
  · exact nofun
  · split
    · exact nofun
    · split <;> exact nofun

end

mutual

theorem Expr.evalBound : (e : Expr) → Defines c e.vars → Bound (e.eval c)
  | .null, _ | .boolean _, _ | .number _, _ | .string _, _ => nofun
  | .array items, defines => by
    rw [eval]
    split
    · exact .ok _
    · rename_i failed
      exact (evalItemsBound items defines).failed failed
  | .object members, defines => by
    rw [eval]
    split
    · exact .ok _
    · rename_i failed
      exact (evalMembersBound [] members defines).failed failed
  | .identifier name, defines => by
    obtain ⟨j, given⟩ := defines name List.mem_cons_self
    rw [eval, given]
    exact .ok j
  | .binary op left right, defines => by
    have first := left.evalBound defines.left
    have second := right.evalBound defines.right
    cases op with
    | and =>
      rw [eval]
      split
      · rename_i failed
        exact first.failed failed
      · split
        · exact second
        · exact .ok _
    | or =>
      rw [eval]
      split
      -- where the left side fails, the right one decides
      · exact second
      · split
        · exact .ok _
        · exact second
    | _ =>
      simp only [eval]
      split
      · rename_i failed
        exact first.failed failed
      · split
        · rename_i failed
          exact second.failed failed
        · exact applyBound _ _ _
  | .transform _ subject arguments, defines => by
    rw [eval]
    split
    · rename_i failed
      exact (subject.evalBound defines.left).failed failed
    · split
      · rename_i failed
        exact (evalItemsBound arguments defines.right).failed failed
      · split
        · exact .ok _
        · exact fun _ same => nomatch same
  | .member subject _, defines => by
    rw [eval]
    split
    · rename_i failed
      exact (subject.evalBound defines).failed failed
    · exact .ok _
  | .index subject at_, defines => by
    rw [eval]
    split
    · rename_i failed
      exact (subject.evalBound defines.left).failed failed
    · split
      · rename_i failed
        exact (at_.evalBound defines.right).failed failed
      · exact indexedBound _ _
  | .select subject _ _ right, defines => by
    rw [eval]
    split
    · rename_i failed
      exact (subject.evalBound defines.left).failed failed
    · split
      · rename_i failed
        exact (right.evalBound defines.right).failed failed
      · exact .ok _
    · exact nofun
  | .conditional condition truthy falsy, defines => by
    rw [eval]
    split
    · split
      · exact truthy.evalBound defines.right.left
      · exact falsy.evalBound defines.right.right
    -- a condition that fails selects as a false one does
    · exact falsy.evalBound defines.right.right

theorem evalItemsBound : (es : List Expr) → Defines c (varsIn es) → Bound (evalItems c es)
  | [], _ => nofun
  | e :: rest, defines => by
    rw [evalItems]
    split
    · rename_i failed
      exact (e.evalBound defines.left).failed failed
    · split
      · rename_i failed
        exact (evalItemsBound rest defines.right).failed failed
      · exact .ok _

theorem evalMembersBound (seen : List String) : (ms : List (String × Expr)) →
    Defines c (varsAmong ms) → Bound (evalMembers c seen ms)
  | [], _ => nofun
  | (key, e) :: rest, defines => by
    rw [evalMembers]
    split
    · exact nofun
    · split
      · rename_i failed
        exact (e.evalBound defines.left).failed failed
      · split
        · rename_i failed
          exact (evalMembersBound (key :: seen) rest defines.right).failed failed
        · exact .ok _

end

section
variable {source : String} {f : Filter}

theorem compiledExpr (compiled : compile source = .ok f) :
    parse source = .ok f.expr ∧ f.expr.unknown? = none ∧ f.expr.neverBoolean = false := by
  unfold compile at compiled
  split at compiled
  · cases compiled
  · cases compiled
  · rename_i parsed
    split at compiled
    · cases compiled
    · rename_i known
      split at compiled
      · cases compiled
      · rename_i possible
        cases compiled
        exact ⟨parsed, known, by simpa using possible⟩

theorem compiledVariables (compiled : compile source = .ok f) :
    ∀ name ∈ f.expr.vars, name ∈ contextNames := by
  have known := (compiledExpr compiled).2.1
  rw [unknownFound, List.find?_eq_none] at known
  intro name inside
  simpa [isUnknown] using known name inside

/-- A filter that compiles is evaluated by the payload and the headers alone, and where both are
given it never fails for a name without a value. -/
theorem closedOverRequest (compiled : compile source = .ok f) :
    (∀ c d : Context, Agree c d contextNames → f.evaluateIn c = f.evaluateIn d) ∧
    (∀ c : Context, Defines c contextNames → ∀ name,
      f.evaluateIn c ≠ .error (.evalFailed (.undefinedIdentifier name))) := by
  have known := compiledVariables compiled
  refine ⟨fun c d agree => ?_, fun c defines name failed => ?_⟩
  · have same : f.expr.eval c = f.expr.eval d :=
      f.expr.evalAgree fun name inside => agree name (known name inside)
    rw [evaluateIn, evaluateIn, same]
  · have bound : Bound (f.expr.eval c) :=
      f.expr.evalBound fun name inside => defines name (known name inside)
    unfold evaluateIn at failed
    split at failed
    · rename_i cause
      cases failed
      exact bound name cause
    · cases failed
    · cases failed

theorem ofBodyOrHeaders {name : String} (inside : name ∈ contextNames) :
    name = "body" ∨ name = "headers" := by
  simpa [contextNames] using inside

def namedFilter : String := "\x7bname: body.labels[.name == (headers.want)]\x7d.name|not"

def labelled : Context :=
  Context.ofRequest (.object [("labels", .array [.object [("name", .string "bug")]])])
    (.object [("want", .string "bug")])

def crowded : Context := fun name =>
  if name = "name" ∨ name = "not" then some (.string "other") else labelled name

theorem namedIsClosed : ∃ f, compile namedFilter = .ok f ∧
    f.evaluateIn labelled = f.evaluateIn crowded ∧
    ∀ name, f.evaluateIn labelled ≠ .error (.evalFailed (.undefinedIdentifier name)) := by
  have compiles : (compile namedFilter).toOption.isSome = true := by decide +kernel
  cases compiled : compile namedFilter with
  | error e => rw [compiled] at compiles; cases compiles
  | ok f =>
    obtain ⟨same, bound⟩ := closedOverRequest compiled
    refine ⟨f, rfl, same _ _ ?_, bound _ ?_⟩
    · intro name inside
      rcases ofBodyOrHeaders inside with rfl | rfl <;> rfl
    · intro name inside
      rcases ofBodyOrHeaders inside with rfl | rfl <;> exact ⟨_, rfl⟩

end

end Filter
end Turnstile
