import Turnstile.Proofs.Template.Filling
/-! Templates without trim markers. Each action gives way to the text of its value, which is not
looked at again; all other text stays. -/
namespace Turnstile.Template

theorem fillSlot {data : Json} {s : Slot} {f : Filled} (done : s.fill data = .ok f) : f.slot = s := by
  unfold Slot.fill at done
  cases value : evalAction s.code data with
  | error e =>
    rw [value] at done
    cases done
  | ok j =>
    rw [value] at done
    cases done
    rfl

theorem fillSlots {data : Json} {slots : List Slot} {filled : List Filled}
    (whole : slots.mapM (Slot.fill data) = .ok filled) : filled.map Filled.slot = slots := by
  induction slots generalizing filled with
  | nil =>
    cases whole
    rfl
  | cons s rest ih =>
    rw [List.mapM_cons] at whole
    cases first : s.fill data with
    | error e =>
      rw [first] at whole
      cases whole
    | ok f =>
      cases later : rest.mapM (Slot.fill data) with
      | error e =>
        rw [first, later] at whole
        cases whole
      | ok filled =>
        rw [first, later] at whole
        cases whole
        rw [List.map_cons, fillSlot first, ih later]

namespace Output

theorem addUnmarked {filled : List Filled}
    (unmarked : ∀ f ∈ filled, f.slot.opens = false ∧ f.slot.closes = false) (text : List Char) :
    filled.foldl add ⟨text, false⟩ = ⟨text ++ filled.flatMap fun f => f.slot.before ++ f.value, false⟩ := by
  induction filled generalizing text with
  | nil => simp
  | cons f rest ih =>
    obtain ⟨opens, closes⟩ := unmarked f List.mem_cons_self
    have first : add ⟨text, false⟩ f = ⟨text ++ (f.slot.before ++ f.value), false⟩ := by
      simp [add, opens, closes]
    rw [List.foldl_cons, first, ih fun g inside => unmarked g (List.mem_cons_of_mem _ inside)]
    simp

end Output

/-- Texts stay and actions give way to their values, or the first action that fails tells why; and
braces that open an action without an end are reported where they stand, which is one before
braces that follow a brace. -/
theorem actionsSubstituted (data : Json) (slots : List Slot) (last : List Char)
    (unmarked : ∀ s ∈ slots, s.opens = false ∧ s.closes = false)
    (none_ : ¬ [opening, opening] <:+: last) :
    render (String.ofList (spelled slots last)) data =
        (slots.mapM (Slot.fill data)).map (fun filled =>
          String.ofList (filled.flatMap (fun f => f.slot.before ++ f.value) ++ last)) ∧
      ∀ rest filled, ¬ [closing, closing] <:+: rest → slots.mapM (Slot.fill data) = .ok filled →
        (last.getLast? ≠ some opening →
          render (String.ofList (spelled slots last ++ opening :: opening :: rest)) data =
            .error (.unclosed (byteSize (spelled slots last)))) ∧
        ∀ text, last = text ++ [opening] →
          render (String.ofList (spelled slots last ++ opening :: opening :: rest)) data =
            .error (.unclosed (byteSize (spelled slots text))) := by
  refine ⟨?_, fun rest filled open_ whole => ⟨fun apart => ?_, ?_⟩⟩
  · rw [renderSpelled data slots last none_]
    cases whole : slots.mapM (Slot.fill data) with
    | error e => rfl
    | ok filled =>
      have plain : ∀ f ∈ filled, f.slot.opens = false ∧ f.slot.closes = false := fun f inside =>
        unmarked f.slot (fillSlots whole ▸ List.mem_map_of_mem inside)
      refine congrArg (fun text => Except.ok (String.ofList text)) ?_
      rw [Output.addUnmarked plain]
      simp [Output.finish]
  · rw [spelledAppend, renderUnclosed data slots ⟨none_, apart⟩ open_, whole]
    rfl
  · rintro text rfl
    -- the pair that is found first is made of the brace before it and the first of its own
    have open_ : ¬ [closing, closing] <:+: opening :: rest := by
      rw [pairCons]
      exact fun either => either.elim (fun both => absurd both.1 (by decide)) open_
    rw [spelledAppend, List.append_assoc, List.singleton_append,
      renderUnclosed data slots (clearIff.mpr none_) open_, whole]
    rfl

def greeting : List Slot :=
  [⟨['é'], " .a ".toList, by decide +kernel, by decide +kernel⟩,
    ⟨[], ".b".toList, by decide +kernel, by decide +kernel⟩]

def guest : Json := .object [("a", .string "\x7b\x7b .b \x7d\x7d | \""), ("b", .int 2)]

theorem greetingSubstituted :
    (∀ s ∈ greeting, s.opens = false ∧ s.closes = false) ∧
    render "é\x7b\x7b .a \x7d\x7d\x7b\x7b.b\x7d\x7d!" guest = .ok "é\x7b\x7b .b \x7d\x7d | \"2!" ∧
    render "é\x7b\x7b .a \x7d\x7d\x7b\x7b.b\x7d\x7d!\x7b\x7b .c" guest = .error (.unclosed 17) := by
  have unmarked : ∀ s ∈ greeting, s.opens = false ∧ s.closes = false := by decide +kernel
  have written : String.ofList (spelled greeting ['!']) = "é\x7b\x7b .a \x7d\x7d\x7b\x7b.b\x7d\x7d!" := by
    decide +kernel
  have filled : greeting.mapM (Slot.fill guest) = .ok _ := rfl
  obtain ⟨whole, open_⟩ := actionsSubstituted guest greeting ['!'] unmarked (by decide +kernel)
  have reported := (open_ " .c".toList _ (by decide +kernel) filled).1 (by decide)
  refine ⟨unmarked, ?_, ?_⟩
  · rw [← written, whole, filled]
    rfl
  · rw [show byteSize (spelled greeting ['!']) = 17 by decide +kernel] at reported
    rw [← reported]
    exact congrArg (render · guest) (by decide +kernel)

end Turnstile.Template
