import Turnstile.Template.Render
/-! How a template is laid out. Its actions stand between the first pair of braces that opens and
the first pair behind it that closes, and that is where it is cut. -/
namespace Turnstile.Template

/-- A pair of marks that follows is the first pair: there is none inside, and none is made with the end. -/
def Clear (mark : Char) (s : List Char) : Prop := ¬ [mark, mark] <:+: s ∧ s.getLast? ≠ some mark

instance (mark : Char) (s : List Char) : Decidable (Clear mark s) := inferInstanceAs (Decidable (_ ∧ _))

section
variable {mark c : Char} {s before after : List Char}

theorem pairCons : [mark, mark] <:+: c :: s ↔ (c = mark ∧ s.head? = some mark) ∨ [mark, mark] <:+: s := by
  rw [List.infix_cons_iff]
  refine or_congr_left ?_
  cases s with
  | nil => simp
  | cons d rest => simp [eq_comm]

theorem pairBehind (clean : mark ∉ before) : [mark, mark] <:+: before ++ s ↔ [mark, mark] <:+: s := by
  induction before with
  | nil => rfl
  | cons c rest ih =>
    rw [List.cons_append, pairCons, ih fun inside => clean (List.mem_cons_of_mem _ inside)]
    refine or_iff_right fun both => clean ?_
    rw [both.1]
    exact List.mem_cons_self

theorem pairBefore (clean : mark ∉ after) : [mark, mark] <:+: s ++ after ↔ [mark, mark] <:+: s := by
  have turned (t : List Char) : [mark, mark] <:+: t ↔ [mark, mark] <:+: t.reverse := by
    rw [← List.reverse_infix]
    rfl
  rw [turned, List.reverse_append, pairBehind (mt List.mem_reverse.mp clean), ← turned]

theorem clearCons : Clear mark (c :: s) ↔ (c = mark → ∃ d ∈ s.head?, d ≠ mark) ∧ Clear mark s := by
  unfold Clear
  rw [pairCons]
  cases s with
  | nil => simp
  | cons d rest =>
    simp
    grind

theorem clearNil : Clear mark [] := by simp [Clear]

theorem clearIff : Clear mark s ↔ ¬ [mark, mark] <:+: s ++ [mark] := by
  induction s with
  | nil => simp [clearNil, pairCons]
  | cons c rest ih =>
    rw [clearCons, ih, List.cons_append, pairCons]
    cases rest with
    | nil => simp [pairCons]
    | cons d more => simp

theorem breakOnIff : breakOn mark s = some (before, after) ↔
    s = before ++ mark :: mark :: after ∧ Clear mark before := by
  fun_induction breakOn mark s generalizing before with
  | case1 c d rest same =>
    obtain ⟨rfl, rfl⟩ : c = mark ∧ d = mark := by simpa using same
    constructor
    · intro first
      cases first
      exact ⟨rfl, clearNil⟩
    · rintro ⟨whole, clear⟩
      cases before with
      | nil => simpa using whole
      | cons e front =>
        obtain ⟨rfl, tail⟩ := List.cons.inj whole
        obtain ⟨d, head, other⟩ := (clearCons.mp clear).1 rfl
        cases front with
        | nil => cases head
        | cons f front =>
          cases head
          exact absurd (List.cons.inj tail).1.symm other
  | case2 c d rest other ih =>
    constructor
    · intro later
      obtain ⟨⟨front, r⟩, found, last⟩ := Option.map_eq_some_iff.mp later
      cases last
      obtain ⟨whole, clear⟩ := ih.mp found
      refine ⟨congrArg (c :: ·) whole, clearCons.mpr ⟨?_, clear⟩⟩
      rintro rfl
      cases front with
      | nil =>
        cases whole
        simp at other
      | cons e front =>
        cases whole
        exact ⟨d, rfl, by simpa using other⟩
    · rintro ⟨whole, clear⟩
      cases before with
      | nil =>
        cases whole
        simp at other
      | cons e front =>
        obtain ⟨rfl, tail⟩ := List.cons.inj whole
        rw [ih.mpr ⟨tail, (clearCons.mp clear).2⟩]
        rfl
  | case3 s short =>
    refine iff_of_false (fun found => by cases found) ?_
    rintro ⟨rfl, -⟩
    cases before with
    | nil => exact short _ _ _ rfl
    | cons e front => cases front <;> exact short _ _ _ rfl

theorem breakOnNone : breakOn mark s = none ↔ ¬ [mark, mark] <:+: s := by
  fun_induction breakOn mark s with
  | case1 c d rest same =>
    obtain ⟨rfl, rfl⟩ : c = mark ∧ d = mark := by simpa using same
    simp [pairCons]
  | case2 c d rest other ih =>
    rw [Option.map_eq_none_iff, ih, pairCons (c := c)]
    simp only [Bool.and_eq_true, decide_eq_true_eq] at other
    simp [other]
  | case3 s short =>
    cases s with
    | nil => simp
    | cons c rest =>
      cases rest with
      | nil => simp [pairCons]
      | cons d rest => exact (short c d rest rfl).elim

end

structure Slot where
  before : List Char
  source : List Char
  plain : Clear opening before
  closed : Clear closing source

def spelled : List Slot → List Char → List Char
  | [], last => last
  | s :: rest, last =>
    s.before ++ opening :: opening :: (s.source ++ closing :: closing :: spelled rest last)

theorem spelledAppend (slots : List Slot) (last rest : List Char) :
    spelled slots last ++ rest = spelled slots (last ++ rest) := by
  induction slots with
  | nil => rfl
  | cons s later ih => simp [spelled, ih]

def piecesOf (slots : List Slot) : List Piece := slots.flatMap fun s => [.text s.before, pieceOf s.source]

theorem byteSizeAppend (s t : List Char) : byteSize (s ++ t) = byteSize s + byteSize t := by
  simp [byteSize, String.ofList_append, String.utf8ByteSize_append]

theorem byteSizeCons (c : Char) (s : List Char) : byteSize (c :: s) = c.utf8Size + byteSize s := by
  rw [← List.singleton_append, byteSizeAppend]
  simp [byteSize]

section
variable {text last rest : List Char} (offset : Nat)

theorem cutPlain (none_ : ¬ [opening, opening] <:+: last) : cutFrom offset last = ⟨[.text last], none⟩ := by
  rw [cutFrom]
  split
  · rfl
  · rename_i found
    cases (breakOnNone.mpr none_).symm.trans found

theorem cutOpen (plain : Clear opening text) (open_ : ¬ [closing, closing] <:+: rest) :
    cutFrom offset (text ++ opening :: opening :: rest) = ⟨[.text text], some (offset + byteSize text)⟩ := by
  have first : breakOn opening (text ++ opening :: opening :: rest) = some (text, rest) :=
    breakOnIff.mpr ⟨rfl, plain⟩
  rw [cutFrom]
  split
  · rename_i none_
    cases first.symm.trans none_
  · rename_i found
    cases first.symm.trans found
    split
    · rfl
    · rename_i closes
      cases (breakOnNone.mpr open_).symm.trans closes

theorem cutSlot (s : Slot) (rest : List Char) :
    cutFrom offset (s.before ++ opening :: opening :: (s.source ++ closing :: closing :: rest)) =
      ⟨.text s.before :: pieceOf s.source ::
          (cutFrom (offset + byteSize s.before + 2 + byteSize s.source + 2) rest).pieces,
        (cutFrom (offset + byteSize s.before + 2 + byteSize s.source + 2) rest).unclosed⟩ := by
  have opens : breakOn opening (s.before ++ opening :: opening :: (s.source ++ closing :: closing :: rest)) =
      some (s.before, s.source ++ closing :: closing :: rest) := breakOnIff.mpr ⟨rfl, s.plain⟩
  have closes : breakOn closing (s.source ++ closing :: closing :: rest) = some (s.source, rest) :=
    breakOnIff.mpr ⟨rfl, s.closed⟩
  conv => lhs; rw [cutFrom]
  split
  · rename_i none_
    cases opens.symm.trans none_
  · rename_i found
    cases opens.symm.trans found
    split
    · rename_i none_
      cases closes.symm.trans none_
    · rename_i found
      cases closes.symm.trans found
      rfl

theorem cutSpelled (slots : List Slot) (last : List Char) :
    cutFrom offset (spelled slots last) =
      ⟨piecesOf slots ++ (cutFrom (offset + byteSize (spelled slots [])) last).pieces,
        (cutFrom (offset + byteSize (spelled slots [])) last).unclosed⟩ := by
  induction slots generalizing offset with
  | nil => simp [spelled, piecesOf, byteSize]
  | cons s rest ih =>
    have brace : opening.utf8Size = 1 ∧ closing.utf8Size = 1 := by decide
    have size : offset + byteSize s.before + 2 + byteSize s.source + 2 + byteSize (spelled rest []) =
        offset + byteSize (spelled (s :: rest) []) := by
      simp only [spelled, byteSizeAppend, byteSizeCons, brace]
      omega
    rw [spelled, cutSlot, ih, size]
    simp [piecesOf]

end

theorem laidOut (template : List Char) : ∃ slots last, template = spelled slots last ∧
    (¬ [opening, opening] <:+: last ∨ ∃ text rest, last = text ++ opening :: opening :: rest ∧
      Clear opening text ∧ ¬ [closing, closing] <:+: rest) := by
  induction n : template.length using Nat.strongRecOn generalizing template with
  | _ n shorter =>
    cases opens : breakOn opening template with
    | none => exact ⟨[], template, rfl, .inl (breakOnNone.mp opens)⟩
    | some parts =>
      obtain ⟨text, rest⟩ := parts
      obtain ⟨rfl, plain⟩ := breakOnIff.mp opens
      cases closes : breakOn closing rest with
      | none => exact ⟨[], _, rfl, .inr ⟨text, rest, rfl, plain, breakOnNone.mp closes⟩⟩
      | some parts =>
        obtain ⟨source, after⟩ := parts
        obtain ⟨rfl, closed⟩ := breakOnIff.mp closes
        obtain ⟨slots, last, rfl, ends⟩ := shorter after.length
          (n ▸ Nat.lt_trans (breakOnShortens closes) (breakOnShortens opens)) after rfl
        exact ⟨⟨text, source, plain, closed⟩ :: slots, last, rfl, ends⟩

end Turnstile.Template
