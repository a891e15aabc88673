import Mathlib.Data.Finset.Card
import Mathlib.Data.List.Induction
import Turnstile.Filter.Engine
import Turnstile.Proofs.SortedMap
/-! The engine that keeps what it compiled. Whatever was asked of it before, it answers as a fresh one,
and it keeps what the sources it was asked for compile to, each once. A blank source compiles to
nothing. -/
namespace Turnstile

namespace Filter
open Cursor

/-! A blank source has no tokens, and no expression comes of that. -/

theorem advanceIndex {src : Source} {c : Cursor} (inside : c.atEnd src = false) :
    (c.advance src).index = c.index + 1 := by
  rw [advance, inside]
  rfl

theorem skipBlanksStops (src : Source) (fuel : Nat) (c : Cursor) (enough : src.size ≤ c.index + fuel) :
    (c.skipBlanks src fuel).atEnd src = true ∨ Text.isBlank ((c.skipBlanks src fuel).peek src) = false := by
  induction fuel generalizing c with
  | zero => exact .inl (decide_eq_true enough)
  | succ fuel ih =>
    unfold skipBlanks
    dsimp only
    split
    · rename_i stops
      rcases Bool.or_eq_true_iff.mp stops with ended | dark
      · exact .inl ended
      · exact .inr (by simpa using dark)
    · rename_i goes
      have inside : c.atEnd src = false := by
        rw [Bool.not_eq_true, Bool.or_eq_false_iff] at goes
        exact goes.1
      have nearer (p : Cursor) (same : p.index = c.index) : src.size ≤ (p.advance src).index + fuel := by
        rw [advanceIndex (by rw [atEnd, same]; exact inside), same]
        omega
      refine ih _ (nearer _ ?_)
      split <;> rfl

theorem blankPeek {text : String} (blank : Text.isAllBlank text = true) (c : Cursor)
    (dark : Text.isBlank (c.peek (.ofString text)) = false) : c.peek (.ofString text) = '\x00' := by
  have all : ∀ c ∈ text.toList, Text.isBlank c = true := List.all_eq_true.mp blank
  change Text.isBlank (text.toList.toArray.getD c.index '\x00') = false at dark
  change text.toList.toArray.getD c.index '\x00' = '\x00'
  -- the end is that of the bytes, so that a place may lie behind the last character
  rcases Nat.lt_or_ge c.index text.toList.length with within | beyond
  · have found : text.toList.toArray.getD c.index '\x00' = text.toList[c.index] := by simp [within]
    rw [found, all _ (List.getElem_mem within)] at dark
    cases dark
  · simp [beyond]

theorem scanNothing {src : Source} {c : Cursor} (nothing : c.peek src = '\x00') :
    ∃ fault, scan src c = .error fault := by
  have letter : Text.isAlphabetic '\x00' = false := by decide +kernel
  unfold scan
  rw [nothing]
  simp [letter, symbol?]

theorem lexBlank {text : String} (blank : Text.isAllBlank text = true) : (lex text).lexemes = [] := by
  unfold lex lexemesFrom
  dsimp only
  rcases skipBlanksStops (.ofString text) (Source.ofString text).size start (by simp [start]) with ended | dark
  · rw [if_pos ended]
  · split
    · rfl
    · obtain ⟨fault, refused⟩ := scanNothing (blankPeek blank _ dark)
      rw [refused]

theorem exprNothing (ending : Fault) (fuel level : Nat) : Parser.expr ending fuel level [] = .error ending := by
  induction fuel generalizing level with
  | zero => rfl
  | succ fuel ih =>
    unfold Parser.expr
    split
    · rw [ih]
      rfl
    · cases fuel <;> rfl

theorem blankFails {source : String} (blank : Text.isAllBlank source = true) :
    ∃ e, Filter.compile source = .error e := by
  have refused : ∃ fault, parse source = .error fault := by
    unfold parse
    dsimp only
    rw [lexBlank blank, exprNothing]
    exact ⟨_, rfl⟩
  obtain ⟨fault, refused⟩ := refused
  unfold compile
  rw [refused]
  cases fault <;> exact ⟨_, rfl⟩

end Filter

def Filter.verdict (source : String) (body headers : Json) : Except FilterError Bool :=
  if Text.isAllBlank source then .ok true
  else
    match Filter.compile source with
    | .error e => .error e
    | .ok f => f.evaluate body headers

def FilterEngine.Sound (engine : FilterEngine) : Prop :=
  ∀ source f, engine.cache.get? source = some f → Filter.compile source = .ok f

namespace FilterEngine
variable {engine : FilterEngine}

theorem emptySound : FilterEngine.empty.Sound := by
  intro source f found
  cases found

theorem compileSound (sound : engine.Sound) (source : String) :
    (engine.compile source).1 = Filter.compile source ∧ (engine.compile source).2.Sound := by
  unfold compile
  cases kept : engine.cache.get? source with
  | some f => exact ⟨(sound source f kept).symm, sound⟩
  | none =>
    cases compiled : Filter.compile source with
    | error e => exact ⟨rfl, sound⟩
    | ok f =>
      refine ⟨rfl, fun other g found => ?_⟩
      by_cases same : other = source
      · rw [same, SortedMap.getInsertSame] at found
        cases found
        rw [same]
        exact compiled
      · exact sound other g ((SortedMap.getInsertOther _ _ same).symm.trans found)

theorem evaluateSound (sound : engine.Sound) (source : String) (body headers : Json) :
    (engine.evaluate source body headers).1 = Filter.verdict source body headers ∧
      (engine.evaluate source body headers).2.Sound := by
  unfold evaluate Filter.verdict
  split
  · exact ⟨rfl, sound⟩
  · obtain ⟨same, after⟩ := compileSound sound source
    generalize engine.compile source = compiled at same after ⊢
    obtain ⟨reply, engine⟩ := compiled
    rw [← same]
    cases reply <;> exact ⟨rfl, after⟩

/-! What an engine keeps. -/

theorem compileKeeps (sound : engine.Sound) (source other : String) :
    (engine.compile source).2.cache.get? other =
      if other = source then (Filter.compile source).toOption else engine.cache.get? other := by
  by_cases same : other = source
  · subst same
    rw [if_pos rfl, compile]
    cases kept : engine.cache.get? other with
    | some f =>
      rw [sound other f kept]
      exact kept
    | none =>
      cases Filter.compile other with
      | error e => exact kept
      | ok f => exact SortedMap.getInsertSame _ _ _
  · rw [if_neg same, compile]
    cases engine.cache.get? source with
    | some f => rfl
    | none =>
      cases Filter.compile source with
      | error e => rfl
      | ok f => exact SortedMap.getInsertOther _ _ same

theorem refusedUnkept (sound : engine.Sound) {source : String} {e : FilterError}
    (refused : Filter.compile source = .error e) : engine.cache.get? source = none := by
  cases kept : engine.cache.get? source with
  | none => rfl
  | some f =>
    rw [sound source f kept] at refused
    cases refused

theorem evaluateKeeps (sound : engine.Sound) (source other : String) (body headers : Json) :
    (engine.evaluate source body headers).2.cache.get? other =
      if other = source then (Filter.compile source).toOption else engine.cache.get? other := by
  rw [evaluate]
  by_cases blank : Text.isAllBlank source = true
  · rw [if_pos blank]
    split
    · rename_i same
      obtain ⟨e, refused⟩ := Filter.blankFails blank
      rw [same, refusedUnkept sound refused, refused]
      rfl
    · rfl
  · rw [if_neg blank, ← compileKeeps sound source other]
    generalize engine.compile source = compiled
    obtain ⟨reply, engine⟩ := compiled
    cases reply <;> rfl

inductive Use where
  | compile (source : String)
  | evaluate (source : String) (body headers : Json)

namespace Use

abbrev Reply : Use → Type
  | compile _ => Except FilterError Filter
  | evaluate .. => Except FilterError Bool

def source : Use → String
  | compile source | evaluate source _ _ => source

def on (engine : FilterEngine) : (u : Use) → u.Reply × FilterEngine
  | compile source => engine.compile source
  | evaluate source body headers => engine.evaluate source body headers

def alone : (u : Use) → u.Reply
  | compile source => Filter.compile source
  | evaluate source body headers => Filter.verdict source body headers

theorem onSound (sound : engine.Sound) (u : Use) : (u.on engine).1 = u.alone ∧ (u.on engine).2.Sound := by
  cases u with
  | compile source => exact compileSound sound source
  | evaluate source body headers => exact evaluateSound sound source body headers

theorem onKeeps (sound : engine.Sound) (u : Use) (other : String) : (u.on engine).2.cache.get? other =
    if other = u.source then (Filter.compile u.source).toOption else engine.cache.get? other := by
  cases u with
  | compile source => exact compileKeeps sound source other
  | evaluate source body headers => exact evaluateKeeps sound source other body headers

end Use

def used (uses : List Use) : FilterEngine := uses.foldl (fun engine u => (u.on engine).2) empty

theorem usedMore (uses : List Use) (u : Use) : used (uses ++ [u]) = (u.on (used uses)).2 := by
  simp [used]

theorem usedSound (uses : List Use) : (used uses).Sound := by
  induction uses using List.reverseRecOn with
  | nil => exact emptySound
  | append_singleton uses u ih =>
    rw [usedMore]
    exact (u.onSound ih).2

theorem usedKeeps (uses : List Use) (source : String) (f : Filter) :
    (used uses).cache.get? source = some f ↔ source ∈ uses.map Use.source ∧ Filter.compile source = .ok f := by
  induction uses using List.reverseRecOn with
  | nil => simp [used, empty]
  | append_singleton uses u ih =>
    rw [usedMore, u.onKeeps (usedSound uses), List.map_append, List.mem_append, List.map_singleton,
      List.mem_singleton]
    split
    · rename_i same
      rw [same]
      cases Filter.compile u.source <;> simp [Except.toOption]
    · rename_i apart
      rw [ih]
      simp [apart]

def compiled (uses : List Use) : Finset String :=
  ((uses.map Use.source).filter fun source => (Filter.compile source).toOption.isSome).toFinset

theorem cachedCount (uses : List Use) : (used uses).cached = (compiled uses).card := by
  have same : (used uses).cache.keys.toFinset = compiled uses := by
    ext source
    rw [List.mem_toFinset, SortedMap.memKeys, Option.isSome_iff_exists, compiled, List.mem_toFinset,
      List.mem_filter]
    simp only [usedKeeps]
    cases Filter.compile source <;> simp [Except.toOption]
  rw [← same, List.toFinset_card_of_nodup (used uses).cache.distinctKeys]
  exact (List.length_map _).symm

/-- Every use of an engine is answered as by a fresh engine, whatever came before. What is kept for a source
is the filter compiled from it, and is kept for the sources so far that compile, each counted once; a
source that is blank or does not compile has nothing kept. -/
theorem cacheTransparent (uses : List Use) :
    (∀ u : Use, (u.on (used uses)).1 = (u.on empty).1) ∧
    (∀ source f, (used uses).cache.get? source = some f ↔
      source ∈ uses.map Use.source ∧ Filter.compile source = .ok f) ∧
    (used uses).cached = (compiled uses).card ∧
    ∀ source, (Text.isAllBlank source = true ∨ ∃ e, Filter.compile source = .error e) →
      (used uses).cache.get? source = none := by
  have sound := usedSound uses
  refine ⟨fun u => ?_, usedKeeps uses, cachedCount uses, ?_⟩
  · rw [(u.onSound sound).1, (u.onSound emptySound).1]
  · rintro source (blank | ⟨e, refused⟩)
    · obtain ⟨e, refused⟩ := Filter.blankFails blank
      exact refusedUnkept sound refused
    · exact refusedUnkept sound refused

def mixed : List Use := [
  .evaluate "body.open" (.object [("open", .bool true)]) (.object []),
  .compile "nope",
  .evaluate " " .null .null,
  .compile " body.open",
  .compile "",
  .evaluate "body.open" .null .null]

theorem mixedTransparent : (used mixed).cached = 2 ∧
    ((used mixed).cache.get? " body.open").map Filter.source = some " body.open" ∧
    (used mixed).cache.get? " " = none ∧
    ((used mixed).evaluate "body.open" (.object [("open", .bool false)]) (.object [])).1 =
      (empty.evaluate "body.open" (.object [("open", .bool false)]) (.object [])).1 := by
  obtain ⟨answers, keeps, counts, blanks⟩ := cacheTransparent mixed
  have spaced : (Filter.compile " body.open").toOption.map Filter.source = some " body.open" := by decide +kernel
  refine ⟨counts.trans (by decide +kernel), ?_, blanks " " (.inl (by decide)), answers (.evaluate _ _ _)⟩
  cases compiled : Filter.compile " body.open" with
  | error e =>
    rw [compiled] at spaced
    cases spaced
  | ok f =>
    rw [(keeps " body.open" f).mpr ⟨by decide, compiled⟩]
    rw [compiled] at spaced
    exact spaced

end FilterEngine
end Turnstile
