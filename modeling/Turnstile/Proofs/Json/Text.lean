import Turnstile.Json.Reader
import Turnstile.Json.Writer
import Turnstile.Proofs.SortedMap
import Turnstile.Proofs.Object.Uid
/-! JSON text read back. A value without doubles reads from its compact text as
itself, if its members stand in order and it nests no deeper than the reader goes. -/
namespace Turnstile.Json

/-- Values of at most `depth` nested containers whose text is exact: the doubles are
left out, whole numbers fit the words of the reader, and members stand in order. -/
inductive Plain : Nat → Json → Prop where
  | null {depth : Nat} : Plain depth .null
  | bool {depth : Nat} (b : Bool) : Plain depth (.bool b)
  | int {depth : Nat} {n : Int} (low : -0x8000000000000000 ≤ n) (high : n < 0x10000000000000000) :
      Plain depth (.int n)
  | string {depth : Nat} (s : String) : Plain depth (.string s)
  | array {depth : Nat} {items : List Json} (each : ∀ j ∈ items, Plain depth j) :
      Plain (depth + 1) (.array items)
  | object {depth : Nat} {members : List (String × Json)} (sorted : SortedMap.Increasing members)
      (each : ∀ e ∈ members, Plain depth e.2) : Plain (depth + 1) (.object members)

theorem Plain.deeper {depth more : Nat} {j : Json} (plain : Plain depth j) (order : depth ≤ more) :
    Plain more j := by
  induction plain generalizing more with
  | null => exact .null
  | bool b => exact .bool b
  | int low high => exact .int low high
  | string s => exact .string s
  | array _ ih =>
    obtain ⟨more, rfl⟩ : ∃ m, more = m + 1 := ⟨more - 1, by omega⟩
    exact .array fun j inside => ih j inside (by omega)
  | object sorted _ ih =>
    obtain ⟨more, rfl⟩ : ∃ m, more = m + 1 := ⟨more - 1, by omega⟩
    exact .object sorted fun e inside => ih e inside (by omega)

section Strings

theorem stringPlain {c : Char} {rest : List Char} (quote : c ≠ '"') (slash : c ≠ '\\')
    (high : 32 ≤ c.toNat) :
    stringBody (c :: rest) = (stringBody rest).map fun (s, r) => (c :: s, r) := by
  rw [stringBody.eq_def]
  split
  · rename_i h
    cases h
  · rename_i h
    exact absurd (List.cons.inj h).1 quote
  · rename_i h
    exact absurd (List.cons.inj h).1 slash
  · rename_i h
    exact absurd (List.cons.inj h).1 slash
  · rename_i h
    obtain ⟨rfl, rfl⟩ := List.cons.inj h
    rw [if_neg (by simp [slash]; omega)]

theorem stringEscaped (c : Char) (rest : List Char) :
    stringBody (escapeChar c ++ rest) = (stringBody rest).map fun (s, r) => (c :: s, r) := by
  unfold escapeChar
  split
  · rfl
  · rfl
  · rfl
  · rfl
  · rfl
  · rfl
  · rfl
  · rename_i quote slash _ _ _ _ _
    split
    · rename_i control
      have high := hexValueOfDigit (d := c.toNat / 16) (by omega)
      have low := hexValueOfDigit (d := c.toNat % 16) (by omega)
      have value : unit16? '0' '0' (hexDigit (c.toNat / 16)) (hexDigit (c.toNat % 16)) =
          some c.toNat := by
        have zero : hexValue? '0' = some 0 := rfl
        simp only [unit16?, zero, high, low, Option.bind_eq_bind, Option.bind_some]
        congr 1
        omega
      simp only [List.cons_append, List.nil_append]
      rw [stringBody]
      simp only [value]
      rw [if_neg (by simp; omega), if_neg (by simp; omega), Char.ofNat_toNat]
    · rename_i plain
      exact stringPlain quote slash (by omega)

theorem readQuoted (s rest : List Char) :
    stringBody (s.flatMap escapeChar ++ '"' :: rest) = some (s, rest) := by
  induction s with
  | nil => rfl
  | cons c tail ih =>
    rw [List.flatMap_cons, List.append_assoc, stringEscaped, ih]
    rfl

end Strings

section Numbers

def Ends (rest : List Char) : Prop :=
  ∀ c ∈ rest.head?, c.isDigit = false ∧ c ≠ '.' ∧ c ≠ 'e' ∧ c ≠ 'E'

theorem endsNil : Ends [] := fun _ none_ => nomatch none_

theorem endsCons {c : Char} {rest : List Char}
    (stop : c.isDigit = false ∧ c ≠ '.' ∧ c ≠ 'e' ∧ c ≠ 'E') : Ends (c :: rest) := by
  intro d head
  cases head
  exact stop

theorem digitsGrow (ds : List Char) (acc : Nat) : acc ≤ Nat.ofDigitChars 10 ds acc := by
  induction ds generalizing acc with
  | nil => simp
  | cons d rest ih =>
    rw [Nat.ofDigitChars_cons]
    exact Nat.le_trans (by omega) (ih _)

-- Every prefix of a number that fits the word fits it too.
theorem takeAll {ds rest : List Char} {acc : Nat} (count : Nat) (digits : ∀ d ∈ ds, d.isDigit = true)
    (fits : Nat.ofDigitChars 10 ds acc < word) (ends : Ends rest) :
    takeDigits acc count (ds ++ rest) = (Nat.ofDigitChars 10 ds acc, count + ds.length, rest) := by
  induction ds generalizing acc count with
  | nil =>
    cases rest with
    | nil => rfl
    | cons c tail =>
      have stop := (ends c rfl).1
      simp [takeDigits, stop]
  | cons d tail ih =>
    have next : acc * 10 + digitValue d = 10 * acc + (d.toNat - '0'.toNat) := by
      rw [Nat.mul_comm]
      rfl
    rw [Nat.ofDigitChars_cons, ← next] at fits ⊢
    have small : acc * 10 + digitValue d < word := Nat.lt_of_le_of_lt (digitsGrow tail _) fits
    rw [List.cons_append, takeDigits, if_pos (digits d List.mem_cons_self)]
    simp only [if_pos small]
    rw [ih (count + 1) (fun e inside => digits e (List.mem_cons_of_mem d inside)) fits,
      List.length_cons]
    simp only [Nat.add_assoc, Nat.add_comm 1]

theorem wholeRead {n : Nat} {rest : List Char} (negative : Bool) (small : n < word)
    (least : negative = true → 0 < n ∧ n ≤ 0x8000000000000000) (ends : Ends rest) :
    wholePart negative (Nat.toDigits 10 n ++ rest) =
      some (.int (if negative then -(n : Int) else n), rest) := by
  have digits : ∀ d ∈ Nat.toDigits 10 n, d.isDigit = true := fun d inside =>
    Nat.isDigit_of_mem_toDigits (by decide) (by decide) inside
  have fits : Nat.ofDigitChars 10 (Nat.toDigits 10 n) 0 < word := by
    rw [Nat.ofDigitChars_ten_toDigits]
    exact small
  have taken := takeAll 0 digits fits ends
  have any : ¬ 0 + (Nat.toDigits 10 n).length = 0 := by
    have := Nat.length_toDigits_pos (b := 10) (n := n)
    omega
  have stays : rest.takeWhile Char.isDigit = [] ∧ rest.dropWhile Char.isDigit = rest := by
    cases rest with
    | nil => exact ⟨rfl, rfl⟩
    | cons c tail => simp [(ends c rfl).1]
  simp only [wholePart, taken, Nat.ofDigitChars_ten_toDigits, stays, if_neg any]
  split
  · exact absurd rfl (ends '.' rfl).2.1
  · exact absurd rfl (ends 'e' rfl).2.2.1
  · exact absurd rfl (ends 'E' rfl).2.2.2
  · cases negative with
    | false => rfl
    | true => simp [least rfl]

theorem headOfDigits {n : Nat} (positive : 0 < n) : (Nat.toDigits 10 n).head? ≠ some '0' := by
  induction n using Nat.strongRecOn with
  | _ n ih =>
    by_cases small : n < 10
    · rw [Nat.toDigits_of_lt_base small]
      simp
      omega
    · rw [Nat.toDigits_of_base_le (by decide) (by omega), List.head?_append]
      have front := ih (n / 10) (by omega) (by omega)
      cases head : (Nat.toDigits 10 (n / 10)).head? with
      | none => exact absurd (List.head?_eq_none_iff.mp head) Nat.toDigits_ne_nil
      | some c =>
        rw [head] at front
        exact front

theorem digitsCons (n : Nat) : ∃ d tail, Nat.toDigits 10 n = d :: tail ∧ d.isDigit = true := by
  match digits : Nat.toDigits 10 n with
  | [] => exact absurd digits Nat.toDigits_ne_nil
  | d :: tail =>
    have inside : d ∈ Nat.toDigits 10 n := by
      rw [digits]
      exact List.mem_cons_self
    exact ⟨d, tail, rfl, Nat.isDigit_of_mem_toDigits (by decide) (by decide) inside⟩

def unsignedNumber (negative : Bool) (s : List Char) : Option (Json × List Char) :=
  match s with
  | '0' :: c :: _ => if c.isDigit then none else wholePart negative s
  | s => wholePart negative s

theorem numberMinus (s : List Char) : number ('-' :: s) = unsignedNumber true s := rfl

theorem numberPlain {c : Char} {s : List Char} (plain : c ≠ '-') :
    number (c :: s) = unsignedNumber false (c :: s) := by
  unfold number
  split
  rename_i negative rest parts
  split at parts
  · rename_i minus
    exact absurd (List.cons.inj minus).1 plain
  · cases parts
    rfl

theorem unsignedRead {n : Nat} {rest : List Char} (negative : Bool) (ends : Ends rest) :
    unsignedNumber negative (Nat.toDigits 10 n ++ rest) =
      wholePart negative (Nat.toDigits 10 n ++ rest) := by
  unfold unsignedNumber
  split
  · rename_i c more zero
    by_cases positive : 0 < n
    · -- The first of several digits is not zero.
      have head := headOfDigits positive
      obtain ⟨d, tail, digits, -⟩ := digitsCons n
      rw [digits] at zero head
      exact absurd (congrArg some (List.cons.inj zero).1) head
    · have none_ : n = 0 := by omega
      rw [none_] at zero ⊢
      have tail : rest = c :: more := (List.cons.inj zero).2
      rw [if_neg (by simp [(ends c (by rw [tail]; rfl)).1])]
  · rfl

theorem intStart (n : Int) : ∃ c tail, (toString n).toList = c :: tail ∧ (c.isDigit = true ∨ c = '-') := by
  rw [Int.toString_eq_repr, Int.repr_eq_if]
  split
  · obtain ⟨d, tail, digits, digit⟩ := digitsCons n.toNat
    exact ⟨d, tail, by rw [Nat.toList_repr, digits], .inl digit⟩
  · refine ⟨'-', (-n).toNat.repr.toList, ?_, .inr rfl⟩
    rw [String.toList_append]
    rfl

theorem numberRead {n : Int} {rest : List Char} (low : -0x8000000000000000 ≤ n)
    (high : n < 0x10000000000000000) (ends : Ends rest) :
    number ((toString n).toList ++ rest) = some (.int n, rest) := by
  rw [Int.toString_eq_repr, Int.repr_eq_if]
  split
  · rename_i natural
    have read := wholeRead (n := n.toNat) false (by change n.toNat < 2 ^ 64; omega)
      (fun h => nomatch h) ends
    obtain ⟨d, tail, digits, digit⟩ := digitsCons n.toNat
    have plain : d ≠ '-' := fun minus => by
      rw [minus] at digit
      cases digit
    rw [Nat.toList_repr, digits, List.cons_append, numberPlain plain, ← List.cons_append, ← digits,
      unsignedRead false ends, read]
    simp
    omega
  · rename_i negative
    have minus : ("-" ++ (-n).toNat.repr).toList = '-' :: Nat.toDigits 10 (-n).toNat := by
      rw [String.toList_append, Nat.toList_repr]
      rfl
    rw [minus, List.cons_append, numberMinus, unsignedRead true ends,
      wholeRead true (by change (-n).toNat < 2 ^ 64; omega) (fun _ => by omega) ends]
    simp
    omega

end Numbers

section Values

theorem skipNone {c : Char} (dark : isBlank c = false) (rest : List Char) :
    skipBlanks (c :: rest) = c :: rest :=
  List.dropWhile_cons_of_neg (by simp [dark])

theorem darkStart {c : Char} (start : c.isDigit = true ∨ c = '-') : isBlank c = false := by
  simp only [isBlank, Bool.or_eq_false_iff, decide_eq_false_iff_not]
  refine ⟨⟨⟨?_, ?_⟩, ?_⟩, ?_⟩ <;> rintro rfl <;> simp at start

theorem valueNumber {fuel depth : Nat} {c : Char} {rest : List Char}
    (start : c.isDigit = true ∨ c = '-') :
    value (fuel + 1) depth (c :: rest) = number (c :: rest) := by
  rw [value, skipNone (darkStart start)]
  split
  all_goals first
    | rfl
    | (rename_i same
       rw [(List.cons.inj same).1] at start
       simp at start)

theorem valueString (fuel depth : Nat) (s : String) (rest : List Char) :
    value (fuel + 1) depth ((quote s).toList ++ rest) = some (.string s, rest) := by
  have chars : (quote s).toList ++ rest = '"' :: (s.toList.flatMap escapeChar ++ '"' :: rest) := by
    simp [quote, quoteChars]
  rw [chars, value, skipNone (by decide)]
  simp only [readQuoted, Option.map_some, String.ofList_toList]

def Reads (depth : Nat) (j : Json) : Prop :=
  ∀ fuel rest, j.compact.toList.length < fuel → Ends rest →
    value fuel depth (j.compact.toList ++ rest) = some (j, rest)

def Opens (s : List Char) : Prop :=
  ∃ c tail, s = c :: tail ∧ isBlank c = false ∧ c ≠ ']' ∧ c ≠ '\x7d'

theorem Opens.skip {s : List Char} (opens : Opens s) (rest : List Char) :
    skipBlanks (s ++ rest) = s ++ rest := by
  obtain ⟨c, tail, rfl, dark, -, -⟩ := opens
  exact skipNone dark _

def memberText (e : String × Json) : String := quote e.1 ++ ":" ++ e.2.compact

theorem compactItemsMap (items : List Json) : compactItems items = items.map compact := by
  induction items with
  | nil => rfl
  | cons j rest ih => rw [compactItems, ih, List.map_cons]

theorem compactMembersMap (members : List (String × Json)) :
    compactMembers members = members.map memberText := by
  induction members with
  | nil => rfl
  | cons e rest ih =>
    rw [compactMembers, ih, List.map_cons]
    rfl

def joined (texts : List String) : List Char := [','].intercalate (texts.map String.toList)

theorem joinedCons (first next : String) (rest : List String) :
    joined (first :: next :: rest) = first.toList ++ ',' :: joined (next :: rest) := by
  simp [joined]

theorem arrayChars (items : List Json) :
    (compact (.array items)).toList = '[' :: (joined (items.map compact) ++ [']']) := by
  have marks : "[".toList = ['['] ∧ ",".toList = [','] ∧ "]".toList = [']'] := ⟨rfl, rfl, rfl⟩
  simp only [compact, compactItemsMap, String.toList_append, String.toList_intercalate, marks, joined,
    List.cons_append, List.nil_append]

theorem objectChars (members : List (String × Json)) :
    (compact (.object members)).toList =
      '\x7b' :: (joined (members.map memberText) ++ ['\x7d']) := by
  have marks : "\x7b".toList = ['\x7b'] ∧ ",".toList = [','] ∧ "\x7d".toList = ['\x7d'] :=
    ⟨rfl, rfl, rfl⟩
  simp only [compact, compactMembersMap, String.toList_append, String.toList_intercalate, marks,
    joined, List.cons_append, List.nil_append]

theorem memberChars (e : String × Json) :
    (memberText e).toList = '"' :: (e.1.toList.flatMap escapeChar ++ '"' :: ':' :: e.2.compact.toList) := by
  have colon : ":".toList = [':'] := rfl
  simp [memberText, quote, quoteChars, colon]

theorem quoteOpens (s : String) : Opens (quote s).toList :=
  ⟨'"', s.toList.flatMap escapeChar ++ ['"'], by simp [quote, quoteChars], by decide, by decide,
    by decide⟩

theorem Plain.opens {depth : Nat} {j : Json} (plain : Plain depth j) : Opens j.compact.toList := by
  cases plain with
  | null => exact ⟨'n', _, rfl, by decide, by decide, by decide⟩
  | bool b => cases b <;> exact ⟨_, _, rfl, by decide, by decide, by decide⟩
  | @int _ n _ _ =>
    obtain ⟨c, tail, chars, start⟩ := intStart n
    refine ⟨c, tail, chars, darkStart start, ?_, ?_⟩ <;> rintro rfl <;> simp at start
  | string s => exact quoteOpens s
  | array each => exact ⟨'[', _, arrayChars _, by decide, by decide, by decide⟩
  | object sorted each => exact ⟨'\x7b', _, objectChars _, by decide, by decide, by decide⟩

theorem itemsRead {depth : Nat} {items : List Json} (some_ : items ≠ [])
    (each : ∀ j ∈ items, Reads depth j) (fuel : Nat) (rest : List Char)
    (enough : (joined (items.map compact)).length + 1 < fuel) :
    Json.items fuel depth (joined (items.map compact) ++ ']' :: rest) = some (items, rest) := by
  induction items generalizing fuel with
  | nil => exact absurd rfl some_
  | cons j tail ih =>
    -- The text of each item and its comma are longer than the one step they cost.
    obtain ⟨fuel, rfl⟩ : ∃ f, fuel = f + 1 := ⟨fuel - 1, by omega⟩
    have first := each j List.mem_cons_self
    cases tail with
    | nil =>
      have text : joined ([j].map compact) = j.compact.toList := by simp [joined]
      rw [text] at enough ⊢
      rw [Json.items, first fuel _ (by omega) (endsCons (by decide))]
      rfl
    | cons next more =>
      have text : joined ((j :: next :: more).map compact) =
          j.compact.toList ++ ',' :: joined ((next :: more).map compact) :=
        joinedCons _ _ _
      rw [text, List.length_append, List.length_cons] at enough
      rw [text, List.append_assoc, List.cons_append, Json.items,
        first fuel _ (by omega) (endsCons (by decide))]
      have others := ih (by simp) (fun k inside => each k (List.mem_cons_of_mem j inside)) fuel
        (by omega)
      simp only [skipNone (c := ',') (by decide), others, Option.map_some]

theorem membersRead {depth : Nat} {members : List (String × Json)} (some_ : members ≠ [])
    (each : ∀ e ∈ members, Reads depth e.2) (fuel : Nat) (rest : List Char)
    (enough : (joined (members.map memberText)).length + 1 < fuel) :
    Json.members fuel depth (joined (members.map memberText) ++ '\x7d' :: rest) =
      some (members, rest) := by
  induction members generalizing fuel with
  | nil => exact absurd rfl some_
  | cons e tail ih =>
    obtain ⟨fuel, rfl⟩ : ∃ f, fuel = f + 1 := ⟨fuel - 1, by omega⟩
    have first := each e List.mem_cons_self
    have length := congrArg List.length (memberChars e)
    simp only [List.length_cons, List.length_append] at length
    cases tail with
    | nil =>
      have text : joined ([e].map memberText) = (memberText e).toList := by simp [joined]
      rw [text] at enough ⊢
      rw [memberChars, List.cons_append, Json.members, skipNone (by decide)]
      simp only [List.append_assoc, List.cons_append, readQuoted, skipNone (c := ':') (by decide)]
      rw [first fuel _ (by omega) (endsCons (by decide))]
      simp only [skipNone (c := '\x7d') (by decide), String.ofList_toList]
    | cons next more =>
      have text : joined ((e :: next :: more).map memberText) =
          (memberText e).toList ++ ',' :: joined ((next :: more).map memberText) :=
        joinedCons _ _ _
      rw [text, List.length_append, List.length_cons] at enough
      have others := ih (by simp) (fun k inside => each k (List.mem_cons_of_mem e inside)) fuel
        (by omega)
      rw [text, List.append_assoc, List.cons_append, memberChars, List.cons_append, Json.members,
        skipNone (by decide)]
      simp only [List.append_assoc, List.cons_append, readQuoted, skipNone (c := ':') (by decide)]
      rw [first fuel _ (by omega) (endsCons (by decide))]
      simp only [skipNone (c := ',') (by decide), String.ofList_toList, others, Option.map_some]

theorem joinedOpens {texts : List String} (some_ : texts ≠ []) (each : ∀ t ∈ texts, Opens t.toList) :
    Opens (joined texts) := by
  match texts with
  | [] => exact absurd rfl some_
  | [t] => simpa [joined] using each t List.mem_cons_self
  | t :: next :: rest =>
    obtain ⟨c, tail, chars, opens⟩ := each t List.mem_cons_self
    exact ⟨c, tail ++ ',' :: joined (next :: rest), by rw [joinedCons, chars, List.cons_append], opens⟩

theorem arrayRead {depth : Nat} {items : List Json} (plain : ∀ j ∈ items, Plain depth j)
    (each : ∀ j ∈ items, Reads depth j) : Reads (depth + 1) (.array items) := by
  intro fuel rest enough _
  obtain ⟨fuel, rfl⟩ : ∃ f, fuel = f + 1 := ⟨fuel - 1, by omega⟩
  rw [arrayChars, List.length_cons, List.length_append, List.length_singleton] at enough
  rw [arrayChars, List.cons_append, List.append_assoc, value, skipNone (by decide)]
  by_cases none_ : items = []
  · subst none_
    rfl
  · have opens : Opens (joined (items.map compact)) :=
      joinedOpens (by simpa using none_) fun t inside => by
        obtain ⟨j, there, rfl⟩ := List.mem_map.mp inside
        exact (plain j there).opens
    have read := itemsRead none_ each fuel rest (by omega)
    simp only [List.singleton_append, Nat.add_sub_cancel, opens.skip]
    obtain ⟨c, tail, chars, -, apart, -⟩ := opens
    rw [chars, List.cons_append] at read ⊢
    rw [if_neg (by omega)]
    split
    · rename_i close
      exact absurd (List.cons.inj close).1 apart
    · rw [read, Option.map_some]

theorem objectRead {depth : Nat} {members : List (String × Json)}
    (sorted : SortedMap.Increasing members) (each : ∀ e ∈ members, Reads depth e.2) :
    Reads (depth + 1) (.object members) := by
  intro fuel rest enough _
  obtain ⟨fuel, rfl⟩ : ∃ f, fuel = f + 1 := ⟨fuel - 1, by omega⟩
  rw [objectChars, List.length_cons, List.length_append, List.length_singleton] at enough
  rw [objectChars, List.cons_append, List.append_assoc, value, skipNone (by decide)]
  by_cases none_ : members = []
  · subst none_
    rfl
  · have opens : Opens (joined (members.map memberText)) :=
      joinedOpens (by simpa using none_) fun t inside => by
        obtain ⟨e, -, rfl⟩ := List.mem_map.mp inside
        exact ⟨'"', _, memberChars e, by decide, by decide, by decide⟩
    have read := membersRead none_ each fuel rest (by omega)
    simp only [List.singleton_append, Nat.add_sub_cancel, opens.skip]
    obtain ⟨c, tail, chars, -, -, apart⟩ := opens
    rw [chars, List.cons_append] at read ⊢
    rw [if_neg (by omega)]
    split
    · rename_i close
      exact absurd (List.cons.inj close).1 apart
    · rw [read, Option.map_some, ofMembers, SortedMap.entriesOfList sorted]

theorem Plain.reads {depth : Nat} {j : Json} (plain : Plain depth j) : Reads depth j := by
  induction plain with
  | array plain ih => exact arrayRead plain ih
  | object sorted _ ih => exact objectRead sorted ih
  | null =>
    rintro (_ | fuel) rest enough _
    · cases enough
    · rfl
  | bool b =>
    rintro (_ | fuel) rest enough _
    · cases enough
    · cases b <;> rfl
  | @int _ n low high =>
    rintro (_ | fuel) rest enough ends
    · cases enough
    · have read := numberRead low high ends
      obtain ⟨c, tail, chars, start⟩ := intStart n
      change value (fuel + 1) _ ((toString n).toList ++ rest) = _
      rw [chars, List.cons_append] at read ⊢
      rw [valueNumber start, read]
  | string s =>
    rintro (_ | fuel) rest enough _
    · cases enough
    · exact valueString fuel _ s rest

theorem Plain.readCompact {j : Json} (plain : Plain 127 j) : read? j.compact = some j := by
  have read := plain.reads (j.compact.toList.length + 1) [] (Nat.lt_succ_self _) endsNil
  rw [List.append_nil] at read
  simp [read?, read, skipBlanks]

end Values

end Turnstile.Json
