import Turnstile.Proofs.Json.Text
import Turnstile.Proofs.Template.Filling
import Turnstile.Proofs.Text.Blank
/-! Quoted text as a literal of a template. What stands between the quotes is never taken for the end
of the literal, nor for a bar between stages, so an action that holds it alone gives the text back.
Braces that close are not escaped, and the first pair of them ends the action wherever it stands. -/
namespace Turnstile.Template

theorem hexDigitPlain {n : Nat} (small : n < 16) :
    Json.hexDigit n ≠ '"' ∧ Json.hexDigit n ≠ '\\' ∧ Json.hexDigit n ≠ closing := by
  have each : ∀ d : Fin 16,
      Json.hexDigit d ≠ '"' ∧ Json.hexDigit d ≠ '\\' ∧ Json.hexDigit d ≠ closing := by decide
  exact each ⟨n, small⟩

theorem escapeCases (c : Char) :
    (∃ e more, Json.escapeChar c = '\\' :: e :: more ∧ closing ∉ e :: more ∧
        ∀ d ∈ more, d ≠ '"' ∧ d ≠ '\\') ∨
      (Json.escapeChar c = [c] ∧ c ≠ '"' ∧ c ≠ '\\') := by
  unfold Json.escapeChar
  split
  case h_8 =>
    split
    · rename_i control
      have high := hexDigitPlain (n := c.toNat / 16) (by omega)
      have low := hexDigitPlain (n := c.toNat % 16) (by omega)
      refine .inl ⟨'u', _, rfl, ?_, ?_⟩
      · have apart : closing ≠ 'u' ∧ closing ≠ '0' := by decide
        simp [apart, high.2.2.symm, low.2.2.symm]
      · simp [high, low]
    · rename_i quote slash _ _ _ _ _ _
      exact .inr ⟨rfl, quote, slash⟩
  all_goals exact .inl ⟨_, [], rfl, by decide, nofun⟩

theorem escapeClosing {c : Char} (other : c ≠ closing) : closing ∉ Json.escapeChar c := by
  rcases escapeCases c with ⟨e, more, form, clean, -⟩ | ⟨form, -, -⟩
  · rw [form]
    exact fun inside => (List.mem_cons.mp inside).elim (by decide) clean
  · rw [form]
    exact fun inside => other (List.mem_singleton.mp inside).symm

def escaped (s : List Char) : List Char := s.flatMap Json.escapeChar

theorem escapedCons (c : Char) (s : List Char) : escaped (c :: s) = Json.escapeChar c ++ escaped s := rfl

/-- What may stand between double quotes: a quote or a backslash only behind a backslash. -/
inductive Body : List Char → Prop where
  | nil : Body []
  | plain {c s} (quote : c ≠ '"') (slash : c ≠ '\\') (rest : Body s) : Body (c :: s)
  | escape {c s} (rest : Body s) : Body ('\\' :: c :: s)

theorem bodyPlain {s t : List Char} (plain : ∀ c ∈ s, c ≠ '"' ∧ c ≠ '\\') (rest : Body t) : Body (s ++ t) := by
  induction s with
  | nil => exact rest
  | cons c more ih =>
    obtain ⟨quote, slash⟩ := plain c List.mem_cons_self
    exact .plain quote slash (ih fun d inside => plain d (List.mem_cons_of_mem _ inside))

theorem bodyEscaped (s : List Char) : Body (escaped s) := by
  induction s with
  | nil => exact .nil
  | cons c rest ih =>
    rw [escapedCons]
    rcases escapeCases c with ⟨e, more, form, -, plain⟩ | ⟨form, quote, slash⟩ <;> rw [form]
    · exact .escape (bodyPlain plain ih)
    · exact .plain quote slash ih

theorem quoteEscaped (s : List Char) : Json.quoteChars s = '"' :: (escaped s ++ ['"']) := rfl

section Pairs

theorem escapedHead (s : List Char) : (escaped s).head? = some closing ↔ s.head? = some closing := by
  cases s with
  | nil => rfl
  | cons c rest =>
    rw [escapedCons]
    rcases escapeCases c with ⟨e, more, form, -, -⟩ | ⟨form, -, -⟩
    · refine iff_of_false (by simp [form, closing]) fun head => ?_
      cases head
      cases form
    · rw [form]
      rfl

theorem pairEscaped (s : List Char) : [closing, closing] <:+: escaped s ↔ [closing, closing] <:+: s := by
  induction s with
  | nil => rfl
  | cons c rest ih =>
    rw [pairCons, ← escapedHead, ← ih]
    by_cases same : c = closing
    · subst same
      have whole : escaped (closing :: rest) = closing :: escaped rest := rfl
      rw [whole, pairCons]
    · rw [escapedCons, pairBehind (escapeClosing same)]
      simp [same]

theorem clearEscaped (s : List Char) : Clear closing (escaped s) ↔ Clear closing s := by
  have more : escaped s ++ [closing] = escaped (s ++ [closing]) := by
    rw [escaped, escaped, List.flatMap_append]
    rfl
  rw [clearIff, clearIff, more, pairEscaped]

end Pairs

section Bars

def Inside : Quoting → List Char → Prop
  | q, [] => q.quote.isSome = true
  | q, c :: rest => q.quote.isSome = true ∧ Inside (q.next c) rest

theorem insideOpen {q : Quoting} {s : List Char} (inside : Inside q s) : q.quote.isSome = true := by
  cases s with
  | nil => exact inside
  | cons c rest => exact inside.1

theorem insideAppend {q : Quoting} {s t : List Char} :
    Inside q (s ++ t) ↔ Inside q s ∧ Inside (s.foldl Quoting.next q) t := by
  induction s generalizing q with
  | nil => exact ⟨fun inside => ⟨insideOpen inside, inside⟩, And.right⟩
  | cons c rest ih => simp only [List.cons_append, Inside, List.foldl_cons, ih, and_assoc]

theorem stagesInside {q : Quoting} {s : List Char} (inside : Inside q s) (stage rest : List Char) :
    stagesFrom q stage (s ++ rest) = stagesFrom (s.foldl Quoting.next q) (s.reverse ++ stage) rest := by
  induction s generalizing q stage with
  | nil => rfl
  | cons c more ih =>
    have open_ : q.quote.isNone = false := by simpa [Option.isNone_eq_false_iff] using inside.1
    rw [List.cons_append, stagesFrom, open_, Bool.false_and, if_neg Bool.false_ne_true, ih inside.2,
      List.foldl_cons, List.reverse_cons, List.append_assoc]
    rfl

def quoted : Quoting := ⟨some '"', false⟩

theorem plainNext {c : Char} (quote : c ≠ '"') (slash : c ≠ '\\') : quoted.next c = quoted := by
  simp [quoted, Quoting.next, quote, slash]

theorem bodyInside {s : List Char} (body : Body s) :
    Inside quoted s ∧ s.foldl Quoting.next quoted = quoted := by
  induction body with
  | nil => exact ⟨rfl, rfl⟩
  | plain quote slash rest ih =>
    have next := plainNext quote slash
    exact ⟨⟨rfl, next.symm ▸ ih.1⟩, by rw [List.foldl_cons, next, ih.2]⟩
  | escape rest ih => exact ⟨⟨rfl, rfl, ih.1⟩, ih.2⟩

theorem stagesQuoted (s : List Char) : stages (Json.quoteChars s) = some [Json.quoteChars s] := by
  obtain ⟨inside, back⟩ := bodyInside (bodyEscaped s)
  have first : stages (Json.quoteChars s) = stagesFrom quoted ['"'] (escaped s ++ ['"']) := rfl
  rw [first, stagesInside inside, back, quoteEscaped]
  change some [('"' :: ((escaped s).reverse ++ ['"'])).reverse] = _
  simp

theorem stagesCut {s front : List Char} (cut : front <+: escaped s) : stages ('"' :: front) = none := by
  obtain ⟨rest, whole⟩ := cut
  have inside : Inside quoted (front ++ []) := by
    have all := (bodyInside (bodyEscaped s)).1
    rw [← whole] at all
    rw [List.append_nil]
    exact (insideAppend.mp all).1
  have first : stages ('"' :: front) = stagesFrom quoted ['"'] (front ++ []) := by
    rw [List.append_nil]
    rfl
  obtain ⟨before, open_⟩ := insideAppend.mp inside
  rw [first, stagesInside before, stagesFrom, if_neg (by simpa [Inside, Option.isSome_iff_ne_none] using open_)]

end Bars

section Reading

theorem bodyRaw {s : List Char} (body : Body s) (rest : List Char) :
    quotedRaw false (s ++ '"' :: rest) = some (s, rest) := by
  induction body with
  | nil => rfl
  | plain quote slash later ih =>
    rw [List.cons_append, quotedRaw, ih]
    simp [quote, slash]
  | escape later ih =>
    rw [List.cons_append, List.cons_append]
    simp [quotedRaw, ih]

theorem termsWithinNil (fuel : Nat) : termsWithin fuel [] = .ok [] := by
  cases fuel <;> rfl

theorem termsQuoted (s : List Char) :
    terms (Json.quoteChars s) = .ok [.literal (.string (String.ofList s))] := by
  have body : Json.stringBody (escaped s ++ ['"']) = some (s, []) := Json.readQuoted s []
  have next : nextTerm (Json.quoteChars s) = .ok (some (.literal (.string (String.ofList s)), [])) := by
    rw [quoteEscaped, nextTerm, Text.trimLeft, List.dropWhile_cons_of_neg (by decide)]
    simp only [bodyRaw (bodyEscaped s), body]
  rw [terms, termsWithin, next]
  dsimp only
  rw [termsWithinNil]

theorem trimRightQuoted (s : List Char) : Text.trimRight (Json.quoteChars s) = Json.quoteChars s := by
  rw [Text.trimRightIff]
  intro c last
  have quote : (Json.quoteChars s).getLast? = some '"' := List.getLast?_concat
  cases quote.symm.trans last
  decide

theorem trimLeftQuote (s : List Char) :
    Text.trimLeft ('"' :: s) = '"' :: s ∧ Text.trimLeft (' ' :: '"' :: s) = '"' :: s := by
  have quote : Text.trimLeft ('"' :: s) = '"' :: s := List.dropWhile_cons_of_neg (by decide)
  exact ⟨quote, (List.dropWhile_cons_of_pos (by decide)).trans quote⟩

theorem evalQuoted (s : List Char) (data : Json) :
    evalAction (Json.quoteChars s) data = .ok (.string (String.ofList s)) := by
  have some_ : (Json.quoteChars s).isEmpty = false := rfl
  have trimmed : Text.trimRight (Text.trimLeft (Json.quoteChars s)) = Json.quoteChars s :=
    (congrArg Text.trimRight (trimLeftQuote _).1).trans (trimRightQuoted s)
  simp only [evalAction, some_, Bool.false_eq_true, if_false, stagesQuoted, evalStages, trimmed, termsQuoted]
  rfl

theorem evalCut {s front : List Char} (cut : front <+: escaped s) (data : Json) :
    evalAction ('"' :: front) data =
      .error (.badAction (String.ofList ('"' :: front)) .unterminatedString) := by
  simp only [evalAction, List.isEmpty_cons, Bool.false_eq_true, if_false, stagesCut cut]

end Reading

def literal (q : String) : String := "\x7b\x7b " ++ q ++ " \x7d\x7d"

theorem literalSpelled {q : List Char} {slots : List Slot} {last : List Char}
    (same : spelled slots last = opening :: opening :: ' ' :: (q ++ [' ', closing, closing])) :
    literal (String.ofList q) = String.ofList (spelled slots last) := by
  have front : "\x7b\x7b ".toList = [opening, opening, ' '] := rfl
  have back : " \x7d\x7d".toList = [' ', closing, closing] := rfl
  apply String.toList_injective
  simp [literal, same, front, back]

theorem literalReads {s : List Char} (none_ : ¬ [closing, closing] <:+: s) (data : Json) :
    render (literal (String.ofList (Json.quoteChars s))) data = .ok (String.ofList s) := by
  have closed : Clear closing (' ' :: '"' :: (escaped s ++ ['"', ' '])) := by
    refine ⟨fun pair => none_ ?_, by simp [List.getLast?_cons, closing]⟩
    have start : closing ∉ [' ', '"'] := by decide
    have end_ : closing ∉ ['"', ' '] := by decide
    exact (pairEscaped s).mp ((pairBefore end_).mp ((pairBehind start).mp pair))
  let slot : Slot := ⟨[], ' ' :: '"' :: (escaped s ++ ['"', ' ']), clearNil, closed⟩
  have whole : '"' :: (escaped s ++ ['"', ' ']) = Json.quoteChars s ++ [' '] := by
    simp [Json.quoteChars, escaped]
  have written : literal (String.ofList (Json.quoteChars s)) = String.ofList (spelled [slot] []) :=
    literalSpelled (by simp [spelled, slot, Json.quoteChars, escaped])
  have opens : slot.opens = false := rfl
  have closes : slot.closes = false := by simp [slot, Slot.closes, marked]
  have blank : ∀ c ∈ [' '], Text.isBlank c = true := List.forall_mem_singleton.mpr (by decide)
  have code : slot.code = Json.quoteChars s := by
    simp only [Slot.code, opens, closes, Bool.false_eq_true, if_false]
    rw [(trimLeftQuote _).2, whole, Text.trimRightBlank blank, trimRightQuoted]
  have value : evalAction slot.code data = .ok (.string (String.ofList s)) := by rw [code, evalQuoted]
  rw [written]
  exact renderAlone rfl value

theorem literalFails {s : List Char} (pair : [closing, closing] <:+: s) (data : Json) :
    ∃ action, render (literal (String.ofList (Json.quoteChars s))) data =
      .error (.badAction action .unterminatedString) := by
  cases first : breakOn closing s with
  | none => exact absurd pair (breakOnNone.mp first)
  | some parts =>
    obtain ⟨front, rest⟩ := parts
    obtain ⟨rfl, clear⟩ := breakOnIff.mp first
    have closed : Clear closing (' ' :: '"' :: escaped front) := by
      rw [clearCons, clearCons, clearEscaped]
      exact ⟨fun same => absurd same (by decide), fun same => absurd same (by decide), clear⟩
    let slot : Slot := ⟨[], ' ' :: '"' :: escaped front, clearNil, closed⟩
    have written : literal (String.ofList (Json.quoteChars (front ++ closing :: closing :: rest))) =
        String.ofList (spelled [slot] (escaped rest ++ ['"', ' ', closing, closing])) := by
      have braces : Json.escapeChar closing = [closing] := rfl
      exact literalSpelled (by simp [spelled, slot, Json.quoteChars, escaped, braces])
    have code : ∃ cut, cut <+: escaped front ∧ slot.code = '"' :: cut := by
      have opens : slot.opens = false := rfl
      have left (t : List Char) : Text.trimRight (Text.trimLeft (' ' :: '"' :: t)) = '"' :: Text.trimRight t := by
        rw [(trimLeftQuote t).2, Text.trimRightCons (by decide)]
      have shorter (t : List Char) : Text.trimRight t <+: t := List.rdropWhile_prefix Text.isBlank t
      unfold Slot.code
      rw [opens]
      cases closes : slot.closes with
      | false => exact ⟨_, shorter _, left _⟩
      | true =>
        -- the dash of the marker is a character of the quoted text
        have some_ : escaped front ≠ [] := fun none_ => by
          simp [slot, Slot.closes, marked, none_] at closes
        have dropped : slot.source.dropLast = ' ' :: '"' :: (escaped front).dropLast := by
          simp [slot, List.dropLast_cons_of_ne_nil some_]
        refine ⟨_, (shorter _).trans (List.dropLast_prefix _), ?_⟩
        exact (congrArg (fun t => Text.trimRight (Text.trimLeft t)) dropped).trans (left _)
    obtain ⟨cut, inside, code⟩ := code
    have fails : slot.fill data = .error (.badAction (String.ofList ('"' :: cut)) .unterminatedString) := by
      rw [Slot.fill, code, evalCut inside]
      rfl
    exact ⟨_, written ▸ renderFails (by rw [List.mapM_cons, fails]; rfl) _⟩

theorem quoteRenders (s : String) :
    render "\x7b\x7b .x | quote \x7d\x7d" (.object [("x", .string s)]) = .ok (Json.quote s) := by
  let slot : Slot := ⟨[], " .x | quote ".toList, clearNil, by decide +kernel⟩
  have written : "\x7b\x7b .x | quote \x7d\x7d" = String.ofList (spelled [slot] []) := by decide +kernel
  have code : slot.code = ".x | quote".toList := by decide +kernel
  have value : evalAction slot.code (.object [("x", .string s)]) = .ok (.string (Json.quote s)) := by
    rw [code]
    rfl
  rw [written]
  exact renderAlone rfl value

/-- Quoted text is one stage and one literal, which reads as the text. A template of it renders to
the text exactly if no two closing braces stand side by side there, and fails otherwise, since its
action then ends at them. -/
theorem quotedReturned (s : String) (data : Json) :
    ∃ q, render "\x7b\x7b .x | quote \x7d\x7d" (.object [("x", .string s)]) = .ok q ∧
      stages q.toList = some [q.toList] ∧
      terms q.toList = .ok [.literal (.string s)] ∧
      (render (literal q) data = .ok s ↔ ¬ [closing, closing] <:+: s.toList) ∧
      ((∃ action, render (literal q) data = .error (.badAction action .unterminatedString)) ↔
        [closing, closing] <:+: s.toList) := by
  have form : Json.quote s = String.ofList (Json.quoteChars s.toList) := rfl
  have reads (none_ : ¬ [closing, closing] <:+: s.toList) : render (literal (Json.quote s)) data = .ok s := by
    rw [form, literalReads none_, String.ofList_toList]
  have fails (pair : [closing, closing] <:+: s.toList) :
      ∃ action, render (literal (Json.quote s)) data = .error (.badAction action .unterminatedString) := by
    rw [form]
    exact literalFails pair data
  refine ⟨Json.quote s, quoteRenders s, ?_, ?_, ⟨fun returned pair => ?_, reads⟩, ⟨?_, fails⟩⟩
  · rw [form, String.toList_ofList, stagesQuoted]
  · rw [form, String.toList_ofList, termsQuoted, String.ofList_toList]
  · obtain ⟨action, failed⟩ := fails pair
    cases returned.symm.trans failed
  · rintro ⟨action, failed⟩
    by_contra none_
    cases (reads none_).symm.trans failed

/-- An action ends at braces in quotes, and so in the middle of its literal. -/
theorem bracesCut :
    render "\x7b\x7b .x | quote \x7d\x7d" (.object [("x", .string "a\x7d\x7db")]) = .ok "\"a\x7d\x7db\"" ∧
    render (literal "\"a\x7d\x7db\"") (.object [("x", .string "a\x7d\x7db")]) =
      .error (.badAction "\"a" .unterminatedString) := by
  decide +kernel

end Turnstile.Template
