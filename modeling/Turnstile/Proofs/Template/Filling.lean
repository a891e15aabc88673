import Turnstile.Proofs.Template.Layout
/-! A template filled in. Its actions are evaluated in order, up to the first that fails; then texts
and values are put down one after the other, and blanks are taken away next to trimming actions. -/
namespace Turnstile.Template

def marked : List Char → Bool
  | c :: d :: _ => c = '-' && Text.isBlank d
  | _ => false

theorem trimsLeftMarked (s : List Char) : trimsLeft? s = if marked s then some s.tail else none := by
  match s with
  | [] | [c] => simp [trimsLeft?, marked]
  | c :: d :: rest => by_cases dash : c = '-' <;> simp [trimsLeft?, marked, dash]

theorem markedFront {s : List Char} (two : 2 ≤ s.length) (rest : List Char) :
    marked (s ++ rest) = marked s := by
  match s, two with
  | c :: d :: more, _ => rfl

namespace Slot

def opens (s : Slot) : Bool := marked s.source

def closes (s : Slot) : Bool := marked s.source.reverse

def code (s : Slot) : List Char :=
  let inner := if s.opens then s.source.tail else s.source
  Text.trimRight (Text.trimLeft (if s.closes then inner.dropLast else inner))

-- The dash of the left marker is not that of the right one: a blank stands behind it.
theorem closesInner (s : Slot) (opens : s.opens = true) : marked s.source.tail.reverse = s.closes := by
  unfold Slot.opens at opens
  unfold closes
  match s.source, opens with
  | c :: d :: rest, opens =>
    rw [List.tail_cons, List.reverse_cons (a := c)]
    cases rest with
    | nil =>
      have dash : d ≠ '-' := by
        rintro rfl
        simp [marked, show Text.isBlank '-' = false by decide] at opens
      simp [marked, dash]
    | cons e more => rw [markedFront (by simp)]

theorem pieceOfSource (s : Slot) : pieceOf s.source = .action s.code s.opens s.closes := by
  unfold pieceOf code
  cases left : s.opens with
  | true =>
    have opens : trimsLeft? s.source = some s.source.tail := (trimsLeftMarked _).trans (if_pos left)
    rw [opens]
    dsimp only
    rw [trimsLeftMarked, s.closesInner left]
    cases s.closes <;> simp
  | false =>
    have opens : trimsLeft? s.source = none := (trimsLeftMarked _).trans (if_neg (by simp [← left, Slot.opens]))
    rw [opens]
    dsimp only
    rw [trimsLeftMarked, show marked s.source.reverse = s.closes from rfl]
    cases s.closes <;> simp

end Slot

structure Filled where
  slot : Slot
  value : List Char

def Slot.fill (data : Json) (s : Slot) : Except RenderError Filled :=
  (evalAction s.code data).map fun j => ⟨s, (toText j).toList⟩

namespace Output

def add (out : Output) (f : Filled) : Output :=
  let text := out.text ++ if out.trims then Text.trimLeft f.slot.before else f.slot.before
  ⟨(if f.slot.opens then Text.trimRight text else text) ++ f.value, f.slot.closes⟩

def finish (out : Output) (last : List Char) : List Char :=
  out.text ++ if out.trims then Text.trimLeft last else last

theorem pushSlot (data : Json) (out : Output) (s : Slot) (rest : List Piece) :
    out.pushAll data (.text s.before :: pieceOf s.source :: rest) =
      (s.fill data).bind fun f => (out.add f).pushAll data rest := by
  rw [Slot.pieceOfSource]
  unfold Slot.fill
  simp only [pushAll, push]
  cases evalAction s.code data <;> rfl

theorem pushSlots (data : Json) (out : Output) (slots : List Slot) (rest : List Piece) :
    out.pushAll data (piecesOf slots ++ rest) =
      (slots.mapM (Slot.fill data)).bind fun filled => (filled.foldl add out).pushAll data rest := by
  induction slots generalizing out with
  | nil => rfl
  | cons s later ih =>
    have first : piecesOf (s :: later) ++ rest = .text s.before :: pieceOf s.source :: (piecesOf later ++ rest) := rfl
    rw [first, pushSlot, List.mapM_cons]
    cases s.fill data with
    | error e => rfl
    | ok f =>
      change (out.add f).pushAll data (piecesOf later ++ rest) = _
      rw [ih]
      cases later.mapM (Slot.fill data) <;> rfl

end Output

theorem renderSpelled (data : Json) (slots : List Slot) (last : List Char)
    (none_ : ¬ [opening, opening] <:+: last) :
    render (String.ofList (spelled slots last)) data =
      (slots.mapM (Slot.fill data)).map fun filled =>
        String.ofList ((filled.foldl Output.add ⟨[], false⟩).finish last) := by
  unfold render cut
  rw [String.toList_ofList, cutSpelled, cutPlain _ none_]
  dsimp only
  rw [Output.pushSlots]
  cases slots.mapM (Slot.fill data) <;> rfl

theorem renderAlone {data value : Json} {s : Slot} (bare : s.before = [])
    (done : evalAction s.code data = .ok value) :
    render (String.ofList (spelled [s] [])) data = .ok (toText value) := by
  have filled : [s].mapM (Slot.fill data) = .ok [⟨s, (toText value).toList⟩] := by
    rw [List.mapM_cons, Slot.fill, done]
    rfl
  rw [renderSpelled data _ _ (by decide), filled]
  simp [Except.map, Output.finish, Output.add, bare, Text.trimLeft, Text.trimRight]

theorem renderFails {data : Json} {slots : List Slot} {e : RenderError}
    (fails : slots.mapM (Slot.fill data) = .error e) (last : List Char) :
    render (String.ofList (spelled slots last)) data = .error e := by
  unfold render cut
  rw [String.toList_ofList, cutSpelled]
  dsimp only
  rw [Output.pushSlots, fails]
  rfl

theorem renderUnclosed (data : Json) (slots : List Slot) {text rest : List Char}
    (plain : Clear opening text) (open_ : ¬ [closing, closing] <:+: rest) :
    render (String.ofList (spelled slots (text ++ opening :: opening :: rest))) data =
      (slots.mapM (Slot.fill data)).bind fun _ => .error (.unclosed (byteSize (spelled slots text))) := by
  have size : byteSize (spelled slots text) = byteSize (spelled slots []) + byteSize text := by
    rw [← byteSizeAppend, spelledAppend, List.nil_append]
  unfold render cut
  rw [String.toList_ofList, cutSpelled, cutOpen _ plain open_, size, Nat.zero_add]
  dsimp only
  rw [Output.pushSlots]
  cases slots.mapM (Slot.fill data) <;> rfl

end Turnstile.Template
