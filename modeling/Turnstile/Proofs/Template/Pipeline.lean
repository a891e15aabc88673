import Turnstile.Proofs.Template.Terms
/-! Pipelines. The value of a stage goes to the function of the next as its last argument, so a
term before a bar may as well be written behind the other arguments. -/
namespace Turnstile.Template

section Values
variable {action : String} {data j : Json} {piped : Option Json} {ts : List Term}

theorem termsIff {js : List Json} :
    evalTerms action data ts = .ok js ↔ List.Forall₂ (fun t j => evalTerm action data t = .ok j) ts js := by
  induction ts generalizing js with
  | nil => simp [evalTerms, List.forall₂_nil_left_iff, eq_comm]
  | cons t rest ih =>
    rw [evalTerms, List.forall₂_cons_left_iff]
    cases evalTerm action data t with
    | error e => simp
    | ok j =>
      simp only [← ih]
      cases evalTerms action data rest <;> simp [eq_comm]

theorem stageIff : evalStage action data piped ts = .ok j ↔
    (∃ name arguments js, ts = .function name :: arguments ∧
      List.Forall₂ (fun t j => evalTerm action data t = .ok j) arguments js ∧
      call name (js ++ piped.toList) = .ok j) ∨
    (∃ t, ts = [t] ∧ piped = none ∧ evalTerm action data t = .ok j) := by
  cases ts with
  | nil => simp [evalStage]
  | cons t rest =>
    cases t with
    | function name =>
      simp only [← termsIff, evalStage]
      cases values : evalTerms action data rest <;> simp [evalTerm, values]
    | path text => cases rest <;> cases piped <;> simp [evalStage]
    | literal value => cases rest <;> cases piped <;> simp [evalStage]

-- Only errors tell the text of the action.
theorem termAnywhere {other : String} {t : Term} (value : evalTerm action data t = .ok j) :
    evalTerm other data t = .ok j := by
  cases t with
  | path | literal => exact value
  | function name => cases value

theorem stageAnywhere {other : String} (value : evalStage action data piped ts = .ok j) :
    evalStage other data piped ts = .ok j := by
  rw [stageIff] at value ⊢
  rcases value with ⟨name, arguments, js, rfl, each, called⟩ | ⟨t, rfl, first, value⟩
  · exact .inl ⟨name, arguments, js, rfl, each.imp fun _ _ => termAnywhere, called⟩
  · exact .inr ⟨t, rfl, first, termAnywhere value⟩

end Values

section Stages

def Gives (data : Json) (piped : Option Json) (stage : List Char) (j : Json) : Prop :=
  ∃ ts, terms (Text.trimRight (Text.trimLeft stage)) = .ok ts ∧ evalStage "" data piped ts = .ok j

inductive Flows (data : Json) : Option Json → List (List Char) → Json → Prop where
  | nil {j} : Flows data (some j) [] j
  | cons {piped stage v rest j} (first : Gives data piped stage v) (later : Flows data (some v) rest j) :
      Flows data piped (stage :: rest) j

variable {data j : Json} {piped : Option Json} {stage : List Char} {parts : List (List Char)}

theorem flowsNil : Flows data piped [] j ↔ piped = some j :=
  ⟨fun flows => by cases flows; rfl, fun same => same ▸ .nil⟩

theorem flowsCons :
    Flows data piped (stage :: parts) j ↔ ∃ v, Gives data piped stage v ∧ Flows data (some v) parts j :=
  ⟨fun flows => by cases flows with | cons first later => exact ⟨_, first, later⟩,
    fun ⟨_, first, later⟩ => .cons first later⟩

theorem flowsAppend (some_ : parts ≠ []) {rest : List (List Char)} : Flows data piped (parts ++ rest) j ↔
    ∃ v, Flows data piped parts v ∧ Flows data (some v) rest j := by
  induction parts generalizing piped with
  | nil => exact absurd rfl some_
  | cons stage more ih =>
    rw [List.cons_append, flowsCons]
    cases more with
    | nil => simp [flowsCons, flowsNil]
    | cons next more =>
      rw [exists_congr fun v => and_congr_right fun _ => ih nofun]
      simp only [flowsCons]
      exact ⟨fun ⟨v, first, w, later, last⟩ => ⟨w, ⟨v, first, later⟩, last⟩,
        fun ⟨w, ⟨v, first, later⟩, last⟩ => ⟨v, first, w, later, last⟩⟩

theorem evalStagesIff {action : String} :
    evalStages action data piped parts = .ok (some j) ↔ Flows data piped parts j := by
  induction parts generalizing piped with
  | nil => simp [evalStages, flowsNil]
  | cons stage rest ih =>
    rw [evalStages, flowsCons]
    cases read : terms (Text.trimRight (Text.trimLeft stage)) with
    | error fault => simp [Gives, read]
    | ok ts =>
      have given (v : Json) : Gives data piped stage v ↔ evalStage action data piped ts = .ok v := by
        simp only [Gives, read, Except.ok.injEq, exists_eq_left']
        exact ⟨stageAnywhere, stageAnywhere⟩
      simp only [given]
      cases evalStage action data piped ts with
      | error e => simp
      | ok v => simp [ih]

theorem evalActionIff {action : List Char} :
    evalAction action data = .ok j ↔ ∃ parts, stages action = some parts ∧ Flows data none parts j := by
  cases action with
  | nil =>
    refine iff_of_false nofun ?_
    rintro ⟨parts, whole, flows⟩
    cases whole
    obtain ⟨v, ⟨ts, read, value⟩, -⟩ := flowsCons.mp flows
    cases read
    cases value
  | cons c more =>
    simp only [evalAction, List.isEmpty_cons, Bool.false_eq_true, if_false]
    cases stages (c :: more) with
    | none => simp
    | some parts =>
      have go : evalStages (String.ofList (c :: more)) data none parts = .ok (some j) ↔ Flows data none parts j :=
        evalStagesIff
      simp only [Option.some.injEq, exists_eq_left', ← go]
      rcases evalStages _ data none parts with e | _ | v <;> simp

end Stages

section Calls
variable {data j v : Json} {x f a before after : List Char} {texts : List (List Char)}

def Means (data : Json) (text : List Char) (v : Json) : Prop :=
  ∃ t, Reads text (.ok t) ∧ evalTerm "" data t = .ok v

theorem givesOperand (operand : Operand x) (left : Blank before) (right : Blank after) :
    Gives data none (before ++ (x ++ after)) v ↔ Means data x v := by
  simp only [Gives, Means, trimSolid operand.solid left right, termsOperand operand]
  constructor
  · rintro ⟨_, ⟨t, rfl, reads⟩, value⟩
    obtain ⟨u, same, plain⟩ := operand.reads
    rcases stageIff.mp value with ⟨name, _, _, call, -⟩ | ⟨_, one, -, value⟩
    · cases call
      exact absurd (same.same reads) (plain name)
    · cases one
      exact ⟨t, reads, value⟩
  · rintro ⟨t, reads, value⟩
    exact ⟨_, ⟨t, rfl, reads⟩, stageIff.mpr (.inr ⟨t, rfl, rfl, value⟩)⟩

theorem meansAll {vs : List Json} : List.Forall₂ (Means data) texts vs ↔
    ∃ ts, List.Forall₂ (fun text t => Reads text (.ok t)) texts ts ∧
      List.Forall₂ (fun t v => evalTerm "" data t = .ok v) ts vs := by
  induction texts generalizing vs with
  | nil => simp [List.forall₂_nil_left_iff]
  | cons text rest ih =>
    simp only [List.forall₂_cons_left_iff, ih]
    constructor
    · rintro ⟨v, vs, ⟨t, reads, value⟩, ⟨ts, each, values⟩, rfl⟩
      exact ⟨t :: ts, ⟨t, ts, reads, each, rfl⟩, .cons value values⟩
    · rintro ⟨_, ⟨t, ts, reads, each, rfl⟩, values⟩
      obtain ⟨v, vs, value, later, rfl⟩ := List.forall₂_cons_left_iff.mp values
      exact ⟨v, vs, ⟨t, reads, value⟩, ⟨ts, each, later⟩, rfl⟩

theorem givesCall {piped : Option Json} (name : Name f) (spaced : Spaced texts a)
    (each : ∀ text ∈ texts, Operand text) (left : Blank before) (right : Blank after) :
    Gives data piped (before ++ ((f ++ a) ++ after)) j ↔
      ∃ vs, List.Forall₂ (Means data) texts vs ∧ call (String.ofList f) (vs ++ piped.toList) = .ok j := by
  have solid : Solid (f ++ a) := spaced.solid name.solid fun text inside => (each text inside).solid
  simp only [Gives, trimSolid solid left right, termsCall name spaced each, meansAll]
  constructor
  · rintro ⟨_, ⟨arguments, rfl, reads⟩, value⟩
    rcases stageIff.mp value with ⟨_, _, vs, same, values, called⟩ | ⟨_, one, -, value⟩
    · cases same
      exact ⟨vs, ⟨arguments, reads, values⟩, called⟩
    · rw [← (List.cons.inj one).1] at value
      cases value
  · rintro ⟨vs, ⟨arguments, reads, values⟩, called⟩
    exact ⟨_, ⟨arguments, rfl, reads⟩, stageIff.mpr (.inl ⟨_, arguments, vs, rfl, values, called⟩)⟩

end Calls

section Forms

structure Cuts (action : List Char) (parts : List (List Char)) : Prop where
  some_ : parts ≠ []
  alone : stages action = some parts
  before : ∀ rest, stages (action ++ '|' :: rest) = (stages rest).map (parts ++ ·)

theorem cutsWhole {text : List Char} (whole : Whole text) : Cuts text [text] :=
  ⟨nofun, stagesWhole whole, stagesBar whole⟩

theorem cutsBar {text action : List Char} {parts : List (List Char)} (whole : Whole text)
    (cuts : Cuts action parts) : Cuts (text ++ '|' :: action) (text :: parts) where
  some_ := nofun
  alone := by rw [stagesBar whole, cuts.alone, Option.map_some]
  before rest := by
    rw [List.append_assoc, List.cons_append, stagesBar whole, cuts.before, Option.map_map]
    rfl

variable {data j : Json} {x f action : List Char} {texts : List (List Char)}

theorem Cuts.value {parts : List (List Char)} (cuts : Cuts action parts) :
    evalAction action data = .ok j ↔ Flows data none parts j := by
  rw [evalActionIff, cuts.alone]
  simp

theorem Cuts.more {parts : List (List Char)} (cuts : Cuts action parts) (rest : List Char) :
    evalAction (action ++ '|' :: rest) data = .ok j ↔
      ∃ v later, evalAction action data = .ok v ∧ stages rest = some later ∧ Flows data (some v) later j := by
  simp only [cuts.value, evalActionIff, cuts.before, Option.map_eq_some_iff]
  constructor
  · rintro ⟨_, ⟨later, read, rfl⟩, flows⟩
    obtain ⟨v, first, last⟩ := (flowsAppend cuts.some_).mp flows
    exact ⟨v, later, first, read, last⟩
  · rintro ⟨v, later, first, read, last⟩
    exact ⟨_, ⟨later, read, rfl⟩, (flowsAppend cuts.some_).mpr ⟨v, first, last⟩⟩

/-- A term, a bar, and a function with its arguments: `x | f a`. -/
def Piped (x f : List Char) (texts : List (List Char)) (action : List Char) : Prop :=
  ∃ a left right after, Spaced texts a ∧ Blank left ∧ Blank right ∧ Blank after ∧
    action = x ++ left ++ '|' :: (right ++ ((f ++ a) ++ after))

/-- A function with its arguments: `f a`. -/
def Prefixed (f : List Char) (texts : List (List Char)) (action : List Char) : Prop :=
  ∃ a after, Spaced texts a ∧ Blank after ∧ action = (f ++ a) ++ after

theorem callWhole {a : List Char} (name : Name f) (spaced : Spaced texts a)
    (each : ∀ text ∈ texts, Operand text) : Whole (f ++ a) :=
  wholeAppend (wholePlain name.plain) (spaced.whole fun text inside => (each text inside).whole)

theorem prefixedGives (name : Name f) (each : ∀ text ∈ texts, Operand text) (form : Prefixed f texts action) :
    ∃ parts, Cuts action parts ∧ ∀ data j, Flows data none parts j ↔
      ∃ vs, List.Forall₂ (Means data) texts vs ∧ call (String.ofList f) vs = .ok j := by
  obtain ⟨a, after, spaced, blank, rfl⟩ := form
  refine ⟨_, cutsWhole (wholeAppend (callWhole name spaced each) (wholeBlank blank)), fun data j => ?_⟩
  have gives : Gives data none ([] ++ ((f ++ a) ++ after)) j ↔ _ := givesCall name spaced each blankNil blank
  simpa [flowsCons, flowsNil] using gives

theorem pipedGives (name : Name f) (operand : Operand x) (each : ∀ text ∈ texts, Operand text)
    (form : Piped x f texts action) :
    ∃ parts, Cuts action parts ∧ ∀ data j, Flows data none parts j ↔
      ∃ v vs, Means data x v ∧ List.Forall₂ (Means data) texts vs ∧
        call (String.ofList f) (vs ++ [v]) = .ok j := by
  obtain ⟨a, left, right, after, spaced, blankLeft, blankRight, blankAfter, rfl⟩ := form
  have second := wholeAppend (callWhole name spaced each) (wholeBlank blankAfter)
  refine ⟨_, cutsBar (wholeAppend operand.whole (wholeBlank blankLeft))
    (cutsWhole (wholeAppend (wholeBlank blankRight) second)), fun data j => ?_⟩
  have value (v : Json) : Gives data none ([] ++ (x ++ left)) v ↔ _ := givesOperand operand blankNil blankLeft
  rw [List.nil_append] at value
  simp only [flowsCons, flowsNil, Option.some.injEq, exists_eq_right, value,
    givesCall name spaced each blankRight blankAfter, Option.toList_some, exists_and_left]

theorem valueGives (operand : Operand x) : evalAction x data = .ok j ↔ Means data x j := by
  have gives : Gives data none ([] ++ (x ++ [])) j ↔ _ := givesOperand operand blankNil blankNil
  rw [(cutsWhole operand.whole).value]
  simpa [flowsCons, flowsNil] using gives

theorem valuesGive {vs : List Json} (each : ∀ text ∈ texts, Operand text) :
    List.Forall₂ (fun text v => evalAction text data = .ok v) texts vs ↔ List.Forall₂ (Means data) texts vs := by
  constructor
  · intro values
    exact (List.forall₂_and_left texts vs).mpr ⟨each, values⟩ |>.imp fun _ _ both => (valueGives both.1).mp both.2
  · intro means
    exact (List.forall₂_and_left texts vs).mpr ⟨each, means⟩ |>.imp fun _ _ both => (valueGives both.1).mpr both.2

theorem meansLast {ws : List Json} : List.Forall₂ (Means data) (texts ++ [x]) ws ↔
    ∃ v vs, Means data x v ∧ List.Forall₂ (Means data) texts vs ∧ ws = vs ++ [v] := by
  induction texts generalizing ws with
  | nil => simp [List.forall₂_cons_left_iff, List.forall₂_nil_left_iff]
  | cons text rest ih =>
    simp only [List.cons_append, List.forall₂_cons_left_iff, ih]
    constructor
    · rintro ⟨u, _, first, ⟨v, vs, last, later, rfl⟩, rfl⟩
      exact ⟨v, u :: vs, last, ⟨u, vs, first, later, rfl⟩, rfl⟩
    · rintro ⟨v, _, last, ⟨u, vs, first, later, rfl⟩, rfl⟩
      exact ⟨u, vs ++ [v], first, ⟨v, vs, last, later, rfl⟩, rfl⟩

end Forms

/-- `x | f a` gives a value exactly if `f a x` does, and the same one, whatever stages come behind. -/
theorem pipedCalls {f x piped prefixed : List Char} {texts : List (List Char)} (name : Name f)
    (operand : Operand x) (each : ∀ text ∈ texts, Operand text) (before : Piped x f texts piped)
    (behind : Prefixed f (texts ++ [x]) prefixed) (data : Json) :
    (∀ j, evalAction piped data = .ok j ↔ evalAction prefixed data = .ok j) ∧
    (∀ rest j, evalAction (piped ++ '|' :: rest) data = .ok j ↔
      evalAction (prefixed ++ '|' :: rest) data = .ok j) ∧
    ∀ j, evalAction prefixed data = .ok j ↔ ∃ v vs, evalAction x data = .ok v ∧
      List.Forall₂ (fun text v => evalAction text data = .ok v) texts vs ∧
      call (String.ofList f) (vs ++ [v]) = .ok j := by
  have all : ∀ text ∈ texts ++ [x], Operand text := by
    simpa [or_imp, forall_and] using ⟨each, operand⟩
  obtain ⟨_, cuts, one⟩ := pipedGives name operand each before
  obtain ⟨_, cuts', other⟩ := prefixedGives name all behind
  have same (j : Json) : evalAction piped data = .ok j ↔ evalAction prefixed data = .ok j := by
    rw [cuts.value, cuts'.value, one, other]
    simp only [meansLast]
    constructor
    · rintro ⟨v, vs, last, first, called⟩
      exact ⟨_, ⟨v, vs, last, first, rfl⟩, called⟩
    · rintro ⟨_, ⟨v, vs, last, first, rfl⟩, called⟩
      exact ⟨v, vs, last, first, called⟩
  refine ⟨same, fun rest j => ?_, fun j => ?_⟩
  · rw [cuts.more, cuts'.more]
    simp only [same]
  · rw [← same, cuts.value, one]
    simp only [valueGives operand, valuesGive each]

theorem defaultPiped :
    (∀ j, evalAction ".gone | default \x60a | \" b\x60".toList .null = .ok j ↔
      evalAction "default  \x60a | \" b\x60  .gone ".toList .null = .ok j) ∧
    evalAction ".gone | default \x60a | \" b\x60".toList .null = .ok (.string "a | \" b") := by
  have name : Name "default".toList := ⟨by decide, by simp [Text.isBlank], by rfl⟩
  have operand : Operand ".gone".toList := .path (List.all_eq_true.mp rfl)
  have fallback : Operand "\x60a | \" b\x60".toList := @Operand.raw "a | \" b".toList (by decide)
  have blank : Blank [' '] := by simp [Blank, Text.isBlank]
  have wide : Blank [' ', ' '] := by simp [Blank, Text.isBlank]
  have one : Spaced ["\x60a | \" b\x60".toList] ([' '] ++ ("\x60a | \" b\x60".toList ++ [])) :=
    .cons (List.cons_ne_nil _ _) blank .nil
  have two : Spaced ["\x60a | \" b\x60".toList, ".gone".toList]
      ([' ', ' '] ++ ("\x60a | \" b\x60".toList ++ ([' ', ' '] ++ (".gone".toList ++ [])))) :=
    .cons (List.cons_ne_nil _ _) wide (.cons (List.cons_ne_nil _ _) wide .nil)
  obtain ⟨same, -, -⟩ := pipedCalls name operand (List.forall_mem_singleton.mpr fallback)
    ⟨_, [' '], [' '], [], one, blank, blank, blankNil, rfl⟩ ⟨_, [' '], two, blank, rfl⟩ .null
  exact ⟨same, by rfl⟩

end Turnstile.Template
