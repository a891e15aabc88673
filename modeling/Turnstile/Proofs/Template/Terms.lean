import Mathlib.Data.List.Forall2
import Turnstile.Proofs.Template.Literal
/-! Terms as they are written. A word, or a literal in quotes, is read as the same term wherever it
stands between blanks, and no bar inside it ends the stage. -/
namespace Turnstile.Template

def plain (c : Char) : Bool := !Text.isBlank c && c != '"' && c != '\x60' && c != '|'

inductive Operand : List Char → Prop where
  | path {rest} (word : ∀ c ∈ rest, plain c = true) : Operand ('.' :: rest)
  | number {c rest} (digit : c.isDigit = true ∨ c = '-') (word : ∀ d ∈ rest, plain d = true) :
      Operand (c :: rest)
  | constant {text} (known : text = "true".toList ∨ text = "false".toList ∨ text = "nil".toList) :
      Operand text
  | quoted {body} (whole : Body body) : Operand ('"' :: (body ++ ['"']))
  | raw {body} (whole : '\x60' ∉ body) : Operand ('\x60' :: (body ++ ['\x60']))

structure Name (f : List Char) : Prop where
  some_ : f ≠ []
  word : ∀ c ∈ f, Text.isBlank c = false
  read : classify f = .ok (.function (String.ofList f))

def Blank (s : List Char) : Prop := ∀ c ∈ s, Text.isBlank c = true

theorem blankNil : Blank [] := List.forall_mem_nil _

inductive Spaced : List (List Char) → List Char → Prop where
  | nil : Spaced [] []
  | cons {gap text texts rest} (apart : gap ≠ []) (blank : Blank gap) (tail : Spaced texts rest) :
      Spaced (text :: texts) (gap ++ (text ++ rest))

section Bars

def Whole (text : List Char) : Prop := ∀ stage rest,
  stagesFrom .outside stage (text ++ rest) = stagesFrom .outside (text.reverse ++ stage) rest

theorem wholeNil : Whole [] := fun _ _ => rfl

theorem wholeAppend {s t : List Char} (first : Whole s) (second : Whole t) : Whole (s ++ t) := by
  intro stage rest
  rw [List.append_assoc, first, second, List.reverse_append, List.append_assoc]

theorem wholeOne {c : Char} (bar : c ≠ '|') (quote : c ≠ '"') (tick : c ≠ '\x60') : Whole [c] := by
  intro stage rest
  simp [stagesFrom, Quoting.outside, Quoting.next, bar, quote, tick]

theorem wholeAll {s : List Char} (each : ∀ c ∈ s, Whole [c]) : Whole s := by
  induction s with
  | nil => exact wholeNil
  | cons c rest ih =>
    exact wholeAppend (each c List.mem_cons_self) (ih fun d inside => each d (List.mem_cons_of_mem _ inside))

theorem blankNoMark {c : Char} (blank : Text.isBlank c = true) : c ≠ '|' ∧ c ≠ '"' ∧ c ≠ '\x60' := by
  refine ⟨?_, ?_, ?_⟩ <;> rintro rfl <;> revert blank <;> decide

theorem wholeBlank {s : List Char} (blank : Blank s) : Whole s :=
  wholeAll fun c inside =>
    have apart := blankNoMark (blank c inside)
    wholeOne apart.1 apart.2.1 apart.2.2

theorem plainIff {c : Char} :
    plain c = true ↔ Text.isBlank c = false ∧ c ≠ '"' ∧ c ≠ '\x60' ∧ c ≠ '|' := by
  simp [plain, and_assoc]

theorem wholePlain {s : List Char} (word : ∀ c ∈ s, plain c = true) : Whole s := by
  refine wholeAll fun c inside => ?_
  obtain ⟨-, quote, tick, bar⟩ := plainIff.mp (word c inside)
  exact wholeOne bar quote tick

theorem wholeInside {q : Char} {body : List Char} (mark : q = '"' ∨ q = '\x60')
    (inside : Inside ⟨some q, false⟩ body)
    (back : body.foldl Quoting.next ⟨some q, false⟩ = ⟨some q, false⟩) : Whole (q :: (body ++ [q])) := by
  intro stage rest
  have opens : stagesFrom .outside stage (q :: (body ++ q :: rest)) =
      stagesFrom ⟨some q, false⟩ (q :: stage) (body ++ q :: rest) := by
    rcases mark with rfl | rfl <;> rfl
  have closes (s : List Char) : stagesFrom ⟨some q, false⟩ s (q :: rest) = stagesFrom .outside (q :: s) rest := by
    rcases mark with rfl | rfl <;> rfl
  simp only [List.cons_append, List.append_assoc, List.nil_append]
  rw [opens, stagesInside inside, back, closes]
  simp

theorem rawInside {s : List Char} (whole : '\x60' ∉ s) :
    Inside ⟨some '\x60', false⟩ s ∧ s.foldl Quoting.next ⟨some '\x60', false⟩ = ⟨some '\x60', false⟩ := by
  induction s with
  | nil => exact ⟨rfl, rfl⟩
  | cons c rest ih =>
    obtain ⟨other, later⟩ := not_or.mp (mt List.mem_cons.mpr whole)
    have next : Quoting.next ⟨some '\x60', false⟩ c = ⟨some '\x60', false⟩ := by
      simp [Quoting.next, Ne.symm other]
    obtain ⟨inside, back⟩ := ih later
    exact ⟨⟨rfl, next.symm ▸ inside⟩, by rw [List.foldl_cons, next, back]⟩

theorem digitPlain {c : Char} (digit : c.isDigit = true ∨ c = '-') : plain c = true := by
  rcases digit with digit | rfl
  · have range : 48 ≤ c.toNat ∧ c.toNat ≤ 57 := by
      simpa [Char.isDigit, UInt32.le_iff_toNat_le] using digit
    have other (d : Char) (outside : d.toNat < 48 ∨ 57 < d.toNat) : c ≠ d := by
      rintro rfl
      omega
    refine plainIff.mpr ⟨?_, other _ (by decide), other _ (by decide), other _ (by decide)⟩
    simp [Text.isBlank]
    omega
  · decide

theorem Operand.whole {text : List Char} (operand : Operand text) : Whole text := by
  cases operand with
  | path word => exact wholePlain (List.forall_mem_cons.mpr ⟨by decide, word⟩)
  | number digit word => exact wholePlain (List.forall_mem_cons.mpr ⟨digitPlain digit, word⟩)
  | constant known => rcases known with rfl | rfl | rfl <;> exact wholePlain (List.all_eq_true.mp rfl)
  | quoted body => exact wholeInside (.inl rfl) (bodyInside body).1 (bodyInside body).2
  | raw whole => exact wholeInside (.inr rfl) (rawInside whole).1 (rawInside whole).2

theorem functionWord {f : List Char} {name : String} (read : classify f = .ok (.function name)) :
    (∀ c ∈ f.head?, ¬ (c.isDigit = true ∨ c = '-')) ∧
      ∀ c ∈ f, Text.isAlphanumeric c = true ∨ c = '_' := by
  unfold classify at read
  simp only at read
  split at read
  · cases read
  · split at read
    · cases read
    · split at read
      · cases read
      · split at read
        · cases read
        · split at read
          · split at read <;> cases read
          · rename_i start
            split at read
            · rename_i letters
              exact ⟨fun c first digit => start (by rw [Option.mem_def.mp first]; simpa using digit),
                by simpa using letters⟩
            · cases read

theorem Name.plain {f : List Char} (name : Name f) : ∀ c ∈ f, Template.plain c = true := by
  intro c inside
  have letter := (functionWord name.read).2 c inside
  have other (d : Char) (mark : ¬ (Text.isAlphanumeric d = true ∨ d = '_')) : c ≠ d := by
    rintro rfl
    exact mark letter
  exact plainIff.mpr ⟨name.word c inside, other _ (by decide), other _ (by decide), other _ (by decide)⟩

theorem Spaced.whole {texts : List (List Char)} {s : List Char} (spaced : Spaced texts s)
    (each : ∀ text ∈ texts, Whole text) : Whole s := by
  induction spaced with
  | nil => exact wholeNil
  | cons apart blank tail ih =>
    have later := ih fun text inside => each text (List.mem_cons_of_mem _ inside)
    exact wholeAppend (wholeBlank blank) (wholeAppend (each _ List.mem_cons_self) later)

theorem stagesWhole {text : List Char} (whole : Whole text) : stages text = some [text] := by
  have all := whole [] []
  rw [List.append_nil] at all
  exact all.trans (by simp [stagesFrom, Quoting.outside])

theorem stagesBar {text : List Char} (whole : Whole text) (rest : List Char) :
    stages (text ++ '|' :: rest) = (stages rest).map (text :: ·) := by
  exact (whole [] ('|' :: rest)).trans (by simp [stagesFrom, stages, Quoting.outside])

end Bars

section Reading
variable {s text rest : List Char}

def Reads (text : List Char) (t : Except ActionFault Term) : Prop := ∀ rest,
  (∀ c ∈ rest.head?, Text.isBlank c = true) → nextTerm (text ++ rest) = t.map fun t => some (t, rest)

theorem Reads.same {t u : Except ActionFault Term} (one : Reads text t) (other : Reads text u) : t = u := by
  have both := (one [] nofun).symm.trans (other [] nofun)
  cases t <;> cases u <;> simp_all [Except.map]

theorem trimLeftBlank {gap : List Char} (blank : Blank gap) (s : List Char) :
    Text.trimLeft (gap ++ s) = Text.trimLeft s :=
  List.dropWhile_append_of_pos blank

theorem nextBlank {gap : List Char} (blank : Blank gap) (s : List Char) : nextTerm (gap ++ s) = nextTerm s := by
  unfold nextTerm
  rw [trimLeftBlank blank]

theorem nextNil {gap : List Char} (blank : Blank gap) : nextTerm gap = .ok none := by
  have none_ := nextBlank blank []
  rw [List.append_nil] at none_
  exact none_.trans rfl

theorem wordTaken {word : List Char} (dark : ∀ c ∈ word, Text.isBlank c = false)
    (ends : ∀ c ∈ rest.head?, Text.isBlank c = true) :
    ((word ++ rest).takeWhile fun c => !isWordEnd c) = word ∧
      ((word ++ rest).dropWhile fun c => !isWordEnd c) = rest := by
  have inside : ∀ c ∈ word, (!isWordEnd c) = true := fun c there => by simp [isWordEnd, dark c there]
  have stop : (rest.takeWhile fun c => !isWordEnd c) = [] ∧ (rest.dropWhile fun c => !isWordEnd c) = rest := by
    cases rest with
    | nil => exact ⟨rfl, rfl⟩
    | cons c more => simp [isWordEnd, ends c rfl]
  rw [List.takeWhile_append_of_pos inside, List.dropWhile_append_of_pos inside, stop.1, stop.2]
  exact ⟨List.append_nil _, rfl⟩

theorem wordReads {c : Char} {more : List Char} (word : ∀ d ∈ c :: more, plain d = true) :
    Reads (c :: more) (classify (c :: more)) := by
  intro rest ends
  have dark : ∀ d ∈ c :: more, Text.isBlank d = false := fun d inside => (plainIff.mp (word d inside)).1
  obtain ⟨-, quote, tick, -⟩ := plainIff.mp (word c List.mem_cons_self)
  obtain ⟨taken, left⟩ := wordTaken dark ends
  have start : Text.trimLeft (c :: more ++ rest) = c :: (more ++ rest) :=
    List.dropWhile_cons_of_neg (by simp [dark c List.mem_cons_self])
  rw [nextTerm, start]
  split
  · rename_i same
    cases same
  · rename_i same
    exact absurd (List.cons.inj same).1 quote
  · rename_i same
    exact absurd (List.cons.inj same).1 tick
  · rw [← List.cons_append, taken, left]
    cases classify (c :: more) <;> rfl

theorem quotedReads {body : List Char} (whole : Body body) : Reads ('"' :: (body ++ ['"']))
    (match Json.stringBody (body ++ ['"']) with
      | some (value, []) => .ok (.literal (.string (String.ofList value)))
      | _ => .error .badString) := by
  intro rest ends
  have start : Text.trimLeft ('"' :: (body ++ ['"']) ++ rest) = '"' :: (body ++ '"' :: rest) := by
    rw [List.cons_append, (trimLeftQuote _).1, List.append_assoc, List.singleton_append]
  rw [nextTerm, start]
  simp only [bodyRaw whole]
  rcases Json.stringBody (body ++ ['"']) with _ | ⟨value, _ | _⟩ <;> rfl

theorem rawReads {body : List Char} (whole : '\x60' ∉ body) : Reads ('\x60' :: (body ++ ['\x60']))
    (.ok (.literal (.string (String.ofList body)))) := by
  intro rest ends
  have start : Text.trimLeft ('\x60' :: (body ++ ['\x60']) ++ rest) = '\x60' :: (body ++ '\x60' :: rest) := by
    rw [List.cons_append, List.append_assoc, List.singleton_append]
    exact List.dropWhile_cons_of_neg (by decide)
  have inside : ∀ c ∈ body, decide (c ≠ '\x60') = true := fun c there =>
    decide_eq_true fun same => whole (same ▸ there)
  rw [nextTerm, start]
  simp only
  rw [List.dropWhile_append_of_pos inside, List.takeWhile_append_of_pos inside]
  simp [Except.map]

theorem Operand.reads {text : List Char} (operand : Operand text) :
    ∃ t, Reads text t ∧ ∀ name, t ≠ .ok (.function name) := by
  cases operand with
  | path word => exact ⟨_, wordReads (List.forall_mem_cons.mpr ⟨by decide, word⟩), nofun⟩
  | number digit word =>
    exact ⟨_, wordReads (List.forall_mem_cons.mpr ⟨digitPlain digit, word⟩),
      fun name read => (functionWord read).1 _ rfl digit⟩
  | constant known =>
    rcases known with rfl | rfl | rfl <;> exact ⟨_, wordReads (List.all_eq_true.mp rfl), nofun⟩
  | quoted whole =>
    refine ⟨_, quotedReads whole, fun name => ?_⟩
    split <;> exact nofun
  | raw whole => exact ⟨_, rawReads whole, nofun⟩

theorem Name.reads {f : List Char} (name : Name f) : Reads f (.ok (.function (String.ofList f))) := by
  cases f with
  | nil => exact absurd rfl name.some_
  | cons c more =>
    rw [← name.read]
    exact wordReads name.plain

structure Solid (s : List Char) : Prop where
  some_ : s ≠ []
  first : ∀ c ∈ s.head?, Text.isBlank c = false
  last : ∀ c ∈ s.getLast?, Text.isBlank c = false

theorem solidDark (some_ : s ≠ []) (dark : ∀ c ∈ s, Text.isBlank c = false) : Solid s :=
  ⟨some_, fun c first => dark c (List.mem_of_mem_head? first),
    fun c last => dark c (List.mem_of_mem_getLast? last)⟩

theorem solidOne {c : Char} (dark : Text.isBlank c = false) : Solid [c] :=
  solidDark nofun (List.forall_mem_singleton.mpr dark)

theorem solidAppend {between t : List Char} (first : Solid s) (last : Solid t) : Solid (s ++ (between ++ t)) where
  some_ := by simp [first.some_]
  first := by
    rw [List.head?_append_of_ne_nil _ first.some_]
    exact first.first
  last := by
    rw [← List.append_assoc, List.getLast?_append_of_ne_nil _ last.some_]
    exact last.last

theorem solidPlain {c : Char} {more : List Char} (word : ∀ d ∈ c :: more, plain d = true) : Solid (c :: more) :=
  solidDark nofun fun d inside => (plainIff.mp (word d inside)).1

theorem Operand.solid {text : List Char} (operand : Operand text) : Solid text := by
  cases operand with
  | path word => exact solidPlain (List.forall_mem_cons.mpr ⟨by decide, word⟩)
  | number digit word => exact solidPlain (List.forall_mem_cons.mpr ⟨digitPlain digit, word⟩)
  | constant known => rcases known with rfl | rfl | rfl <;> exact solidPlain (List.all_eq_true.mp rfl)
  | quoted | raw =>
    exact solidAppend (s := [_]) (t := [_]) (solidOne (by decide)) (solidOne (by decide))

theorem Name.solid {f : List Char} (name : Name f) : Solid f := solidDark name.some_ name.word

theorem trimSolid {before after : List Char} (solid : Solid s) (left : Blank before) (right : Blank after) :
    Text.trimRight (Text.trimLeft (before ++ (s ++ after))) = s := by
  rw [trimLeftBlank left]
  obtain ⟨some_, first, last⟩ := solid
  cases s with
  | nil => exact absurd rfl some_
  | cons c more =>
    have kept : Text.trimLeft (c :: more ++ after) = c :: more ++ after :=
      List.dropWhile_cons_of_neg (by simp [first c rfl])
    rw [kept, Text.trimRightBlank right, Text.trimRightIff.mpr last]

theorem termsMore {t : Term} {fuel : Nat} {ts : List Term} (next : nextTerm s = .ok (some (t, rest))) :
    termsWithin (fuel + 1) s = .ok ts ↔ ∃ us, ts = t :: us ∧ termsWithin fuel rest = .ok us := by
  simp only [termsWithin, next]
  cases termsWithin fuel rest with
  | error e => simp
  | ok us => simp [eq_comm]

theorem termsFault {e : ActionFault} {fuel : Nat} (next : nextTerm s = .error e) :
    termsWithin (fuel + 1) s = .error e := by
  rw [termsWithin, next]

namespace Spaced
variable {texts : List (List Char)} {front : List Char}

theorem solid (spaced : Spaced texts s) (start : Solid front) (each : ∀ text ∈ texts, Solid text) :
    Solid (front ++ s) := by
  induction spaced generalizing front with
  | nil => simpa using start
  | @cons gap text texts rest apart blank tail ih =>
    have head : Solid (front ++ (gap ++ text)) := solidAppend start (each text List.mem_cons_self)
    have whole := ih head fun text inside => each text (List.mem_cons_of_mem _ inside)
    simpa using whole

theorem count (spaced : Spaced texts s) : texts.length ≤ s.length := by
  induction spaced with
  | nil => rfl
  | cons apart blank tail ih =>
    have some_ := List.length_pos_iff.mpr apart
    simp only [List.length_cons, List.length_append]
    omega

theorem start {after : List Char} (spaced : Spaced texts s) (blank : Blank after) :
    ∀ c ∈ (s ++ after).head?, Text.isBlank c = true := by
  cases spaced with
  | nil => exact fun c first => blank c (List.mem_of_mem_head? first)
  | cons apart gap tail =>
    rw [List.append_assoc, List.head?_append_of_ne_nil _ apart]
    exact fun c first => gap c (List.mem_of_mem_head? first)

theorem termsWithin {after : List Char} {fuel : Nat} {ts : List Term} (spaced : Spaced texts s)
    (blank : Blank after) (enough : texts.length < fuel) (each : ∀ text ∈ texts, ∃ t, Reads text t) :
    Template.termsWithin fuel (s ++ after) = .ok ts ↔
      List.Forall₂ (fun text t => Reads text (.ok t)) texts ts := by
  induction spaced generalizing fuel ts with
  | nil =>
    obtain ⟨n, rfl⟩ := Nat.exists_eq_add_of_lt enough
    simp [Template.termsWithin, nextNil blank, List.forall₂_nil_left_iff, eq_comm]
  | @cons gap text texts rest apart space tail ih =>
    obtain ⟨fuel, rfl⟩ := Nat.exists_eq_add_one_of_ne_zero (Nat.ne_zero_of_lt enough)
    obtain ⟨t, reads⟩ := each text List.mem_cons_self
    have later (us : List Term) : Template.termsWithin fuel (rest ++ after) = .ok us ↔ _ :=
      ih (Nat.lt_of_succ_lt_succ enough) fun text inside => each text (List.mem_cons_of_mem _ inside)
    have next : nextTerm (gap ++ (text ++ rest) ++ after) = t.map fun t => some (t, rest ++ after) := by
      rw [List.append_assoc, nextBlank space, List.append_assoc, reads _ (tail.start blank)]
    rw [List.forall₂_cons_left_iff]
    cases t with
    | error e =>
      rw [termsFault next]
      refine iff_of_false (by simp) ?_
      rintro ⟨u, -, other, -⟩
      cases reads.same other
    | ok t =>
      rw [termsMore next]
      constructor
      · rintro ⟨us, rfl, whole⟩
        exact ⟨t, us, reads, (later us).mp whole, rfl⟩
      · rintro ⟨u, us, other, each, rfl⟩
        cases reads.same other
        exact ⟨us, rfl, (later us).mpr each⟩

end Spaced

theorem termsOperand {text : List Char} {ts : List Term} (operand : Operand text) :
    terms text = .ok ts ↔ ∃ t, ts = [t] ∧ Reads text (.ok t) := by
  obtain ⟨t, reads, -⟩ := operand.reads
  have next := reads [] (by simp)
  rw [List.append_nil] at next
  rw [terms]
  cases t with
  | error e =>
    rw [termsFault next]
    refine iff_of_false (by simp) ?_
    rintro ⟨u, -, other⟩
    cases reads.same other
  | ok t =>
    rw [termsMore next]
    constructor
    · rintro ⟨us, rfl, whole⟩
      rw [termsWithinNil] at whole
      cases whole
      exact ⟨t, rfl, reads⟩
    · rintro ⟨u, rfl, other⟩
      cases reads.same other
      exact ⟨[], rfl, termsWithinNil _⟩

theorem termsCall {f : List Char} {texts : List (List Char)} {ts : List Term} (name : Name f)
    (spaced : Spaced texts s) (each : ∀ text ∈ texts, Operand text) :
    terms (f ++ s) = .ok ts ↔ ∃ arguments, ts = .function (String.ofList f) :: arguments ∧
      List.Forall₂ (fun text t => Reads text (.ok t)) texts arguments := by
  have next : nextTerm (f ++ s) = .ok (some (.function (String.ofList f), s)) := by
    have start := spaced.start blankNil
    rw [List.append_nil] at start
    exact name.reads s start
  have enough : texts.length < (f ++ s).length := by
    have count := spaced.count
    have some_ := List.length_pos_iff.mpr name.some_
    rw [List.length_append]
    omega
  have later (us : List Term) : termsWithin _ (s ++ []) = .ok us ↔ _ :=
    spaced.termsWithin blankNil enough fun text inside => (each text inside).reads.imp fun _ => And.left
  simp only [List.append_nil] at later
  simp only [terms, termsMore next, later]

end Reading

end Turnstile.Template
