import Turnstile.Proofs.Template.Filling
import Turnstile.Proofs.Text.Blank
/-! What trim markers take away. A right marker takes blanks of the text behind it, and a left marker
those of the text before it; where that text holds nothing else, it also takes the blanks that
whatever stands before it ends in, be it text or a value. -/
namespace Turnstile.Template

def Slot.text (trims : Bool) (s : Slot) : List Char :=
  let start := if trims then Text.trimLeft s.before else s.before
  if s.opens then Text.trimRight start else start

/-- Texts and values one after the other, where markers take blanks of the texts only. -/
def assembled (trims : Bool) : List Filled → List Char → List Char
  | [], last => if trims then Text.trimLeft last else last
  | f :: rest, last => f.slot.text trims ++ f.value ++ assembled f.slot.closes rest last

def Slot.clears (s : Slot) : Bool := s.opens && s.before.all Text.isBlank

theorem Slot.clearsIff {s : Slot} :
    s.clears = true ↔ s.opens = true ∧ ∀ c ∈ s.before, Text.isBlank c = true := by
  simp [clears]

def Spared (done : List Char) (f : Filled) : Prop :=
  f.slot.clears = true → ∀ c ∈ done.getLast?, Text.isBlank c = false

def Spares (done : List Char) (trims : Bool) (filled : List Filled) : Prop :=
  ∀ front f back, filled = front ++ f :: back → Spared (done ++ assembled trims front []) f

section
variable {done : List Char} {trims : Bool} {f : Filled} {rest : List Filled}

theorem assembledNil (trims : Bool) : assembled trims [] [] = [] := by
  cases trims <;> rfl

theorem sparesCons : Spares done trims (f :: rest) ↔
    Spared done f ∧ Spares (done ++ f.slot.text trims ++ f.value) f.slot.closes rest := by
  constructor
  · intro spares
    refine ⟨by simpa [assembledNil] using spares [] f rest rfl, ?_⟩
    rintro front g back rfl
    simpa [assembled] using spares (f :: front) g back rfl
  · rintro ⟨first, later⟩ front g back whole
    cases front with
    | nil =>
      obtain ⟨rfl, -⟩ := List.cons.inj whole
      simpa [assembledNil] using first
    | cons e front =>
      obtain ⟨rfl, tail⟩ := List.cons.inj whole
      simpa [assembled] using later front g back tail

end

namespace Output
variable (out : Output) (f : Filled)

def kept : List Char :=
  if f.slot.clears then Text.trimRight out.text else out.text

theorem keptIff : out.kept f = out.text ↔ Spared out.text f := by
  unfold kept Spared
  split
  · rename_i takes
    rw [Text.trimRightIff]
    exact ⟨fun dark _ => dark, fun spared => spared takes⟩
  · rename_i leaves
    exact iff_of_true rfl fun takes => (leaves takes).elim

theorem keptPrefix : out.kept f <+: out.text := by
  unfold kept
  split
  · exact List.rdropWhile_prefix Text.isBlank _
  · exact List.prefix_refl _

theorem keptDark : Text.dark (out.kept f) = Text.dark out.text := by
  unfold kept
  split <;> simp

theorem addKept : out.add f = ⟨out.kept f ++ f.slot.text out.trims ++ f.value, f.slot.closes⟩ := by
  have start : (∀ c ∈ (if out.trims then Text.trimLeft f.slot.before else f.slot.before), Text.isBlank c = true) ↔
      ∀ c ∈ f.slot.before, Text.isBlank c = true := by
    cases out.trims
    · rfl
    · exact Text.blankTrimLeft
  unfold add kept Slot.text
  generalize (if out.trims then Text.trimLeft f.slot.before else f.slot.before) = text at start
  dsimp only
  by_cases opens : f.slot.opens = true
  · by_cases blank : ∀ c ∈ text, Text.isBlank c = true
    · rw [if_pos opens, if_pos opens, if_pos (Slot.clearsIff.mpr ⟨opens, start.mp blank⟩),
        Text.trimRightBlank blank, Text.trimRightNil blank, List.append_nil]
    · rw [if_pos opens, if_pos opens, if_neg fun takes => blank (start.mpr (Slot.clearsIff.mp takes).2),
        Text.trimRightDark blank]
  · rw [if_neg opens, if_neg opens, if_neg fun takes => opens (Slot.clearsIff.mp takes).1]

variable {out f} {filled : List Filled} (last : List Char)

theorem finishShorter : ((filled.foldl add out).finish last).length ≤
    (out.text ++ assembled out.trims filled last).length := by
  induction filled generalizing out with
  | nil => exact Nat.le_refl _
  | cons f rest ih =>
    have later := @ih (out.add f)
    have first := (out.keptPrefix f).length_le
    rw [addKept] at later
    rw [List.foldl_cons, addKept]
    simp only [assembled, List.length_append] at later ⊢
    omega

theorem finishIff : (filled.foldl add out).finish last = out.text ++ assembled out.trims filled last ↔
    Spares out.text out.trims filled := by
  induction filled generalizing out with
  | nil => exact iff_of_true rfl fun front f back whole => by simp at whole
  | cons f rest ih =>
    rw [sparesCons, ← keptIff, List.foldl_cons]
    by_cases all : out.kept f = out.text
    · have later := @ih (out.add f)
      rw [addKept, all] at later ⊢
      rw [← and_iff_right all (b := Spares _ _ rest), all, ← later]
      simp [assembled]
    · refine iff_of_false (fun same => ?_) fun both => all both.1
      have less : (out.kept f).length < out.text.length :=
        Nat.lt_of_le_of_ne (out.keptPrefix f).length_le fun same => all ((out.keptPrefix f).eq_of_length same)
      have later := @finishShorter (out.add f) rest last
      rw [same, addKept] at later
      simp only [assembled, List.length_append] at later
      omega

theorem finishDark : Text.dark ((filled.foldl add out).finish last) =
    Text.dark (out.text ++ assembled out.trims filled last) := by
  induction filled generalizing out with
  | nil => rfl
  | cons f rest ih =>
    rw [List.foldl_cons, ih, addKept]
    simp [assembled, keptDark]

end Output

/-- A template that renders has its actions closed, and what it renders to holds every text and every
value, and of each at least what is not blank. Texts lose blanks to the markers beside them, and values
lose nothing, exactly if no left marker that finds its text blank stands behind another blank. -/
theorem blanksTaken {template out : String} {data : Json} (rendered : render template data = .ok out) :
    (∃ slots last, template.toList = spelled slots last ∧ ¬ [opening, opening] <:+: last) ∧
    ∀ slots last, template.toList = spelled slots last → ¬ [opening, opening] <:+: last →
      ∃ filled, slots.mapM (Slot.fill data) = .ok filled ∧
        (out.toList = assembled false filled last ↔ Spares [] false filled) ∧
        Text.dark out.toList = Text.dark (assembled false filled last) := by
  have written {letters : List Char} (whole : template.toList = letters) :
      render (String.ofList letters) data = .ok out := by
    rw [← whole, String.ofList_toList, rendered]
  constructor
  · obtain ⟨slots, last, whole, none_ | ⟨text, rest, rfl, plain, open_⟩⟩ := laidOut template.toList
    · exact ⟨slots, last, whole, none_⟩
    · have failed := written whole
      rw [renderUnclosed data slots plain open_] at failed
      cases filling : slots.mapM (Slot.fill data) <;> rw [filling] at failed <;> cases failed
  · intro slots last whole none_
    have done := written whole
    rw [renderSpelled data slots last none_] at done
    cases filling : slots.mapM (Slot.fill data) with
    | error e =>
      rw [filling] at done
      cases done
    | ok filled =>
      rw [filling] at done
      cases done
      refine ⟨filled, rfl, ?_, ?_⟩
      · rw [String.toList_ofList]
        exact Output.finishIff last
      · rw [String.toList_ofList]
        exact Output.finishDark last

def spaced : Json := .object [("v", .string " v "), ("w", .string "w")]

theorem textsTrimmed :
    render "a \n\x7b\x7b- .v -\x7d\x7d\tb \x7b\x7b- .w \x7d\x7d" spaced = .ok "a v bw" ∧
    (∃ slots last, "a \n\x7b\x7b- .v -\x7d\x7d\tb \x7b\x7b- .w \x7d\x7d".toList = spelled slots last ∧
      ¬ [opening, opening] <:+: last) ∧
    ∀ slots last, "a \n\x7b\x7b- .v -\x7d\x7d\tb \x7b\x7b- .w \x7d\x7d".toList = spelled slots last →
      ¬ [opening, opening] <:+: last →
      ∃ filled, slots.mapM (Slot.fill spaced) = .ok filled ∧
        ("a v bw".toList = assembled false filled last ↔ Spares [] false filled) ∧
        Text.dark "a v bw".toList = Text.dark (assembled false filled last) := by
  have rendered : render "a \n\x7b\x7b- .v -\x7d\x7d\tb \x7b\x7b- .w \x7d\x7d" spaced = .ok "a v bw" := by
    decide +kernel
  exact ⟨rendered, blanksTaken rendered⟩

/-- With no text between it and a left marker, a value loses the blanks at its end. -/
theorem valueTrimmed : ∃ slots filled,
    "\x7b\x7b .v \x7d\x7d\x7b\x7b- .w \x7d\x7d".toList = spelled slots [] ∧
    slots.mapM (Slot.fill spaced) = .ok filled ∧ assembled false filled [] = " v w".toList ∧
    render "\x7b\x7b .v \x7d\x7d\x7b\x7b- .w \x7d\x7d" spaced = .ok " vw" := by
  refine ⟨[⟨[], " .v ".toList, by decide +kernel, by decide +kernel⟩,
    ⟨[], "- .w ".toList, by decide +kernel, by decide +kernel⟩], _, ?_, rfl, ?_⟩ <;> decide +kernel

end Turnstile.Template
