import Turnstile.Text.Hex
/-! Hexadecimal text of bytes. A text spells bytes if it is what is written for them, in either
case of the letters. Reading accepts these texts, and others only with a plus sign at the first
place of a pair, where it stands for a zero. -/
namespace Turnstile.Text.Hex
open Json (hexDigit hexValue?)

def Spells (text : List Char) (bytes : List UInt8) : Prop :=
  text.map Char.toLower = (encode bytes).toList

instance (text : List Char) (bytes : List UInt8) : Decidable (Spells text bytes) :=
  inferInstanceAs (Decidable (_ = _))

def unsigned : List Char → List Char
  | a :: b :: rest => (if a = '+' then '0' else a) :: b :: unsigned rest
  | s => s

def Signless (s : List Char) : Prop := ∀ i, s[2 * i]? ≠ some '+'

instance (s : List Char) : Decidable (Signless s) :=
  decidable_of_iff (∀ i < s.length, s[2 * i]? ≠ some '+') <| by
    refine forall_congr' fun i => ⟨fun within sign => within ?_ sign, fun without _ => without⟩
    have inside := (List.getElem?_eq_some_iff.mp sign).1
    omega

theorem digitTable : ∀ n < 128, (∀ v < 16, hexValue? (Char.ofNat n) = some v ↔
    (Char.ofNat n).toLower = hexDigit v) ∧ (hexValue? (Char.ofNat n)).all (· < 16) = true := by
  decide +kernel

theorem noDigitBeyond {c : Char} (beyond : 128 ≤ c.toNat) : hexValue? c = none ∧ c.toLower = c := by
  have above : ∀ d : Char, d.toNat < 128 → ¬ c ≤ d := by
    intro d small below
    have := UInt32.le_iff_toNat_le.mp (Char.le_def.mp below)
    simp only [Char.toNat_val] at this
    omega
  constructor
  · simp [hexValue?, above '9' (by decide), above 'f' (by decide), above 'F' (by decide)]
  · exact dif_neg fun upper => above 'Z' (by decide) upper.2

theorem hexValueIff {c : Char} {v : Nat} : hexValue? c = some v ↔ v < 16 ∧ c.toLower = hexDigit v := by
  rcases Nat.lt_or_ge c.toNat 128 with low | high
  · obtain ⟨table, small⟩ := digitTable c.toNat low
    rw [Char.ofNat_toNat] at table small
    constructor
    · intro value
      rw [value] at small
      have within : v < 16 := by simpa using small
      exact ⟨within, (table v within).mp value⟩
    · exact fun ⟨within, same⟩ => (table v within).mpr same
  · obtain ⟨none, same⟩ := noDigitBeyond high
    rw [none, same]
    constructor
    · exact nofun
    · rintro ⟨within, rfl⟩
      have ascii : ∀ v < 16, (hexDigit v).toNat < 128 := by decide
      exact absurd (ascii v within) (Nat.not_lt.mpr high)

theorem encodeCons (x : UInt8) (bytes : List UInt8) : (encode (x :: bytes)).toList =
    hexDigit (x.toNat / 16) :: hexDigit (x.toNat % 16) :: (encode bytes).toList := by
  simp [encode]

theorem pairUnsigned (a b : Char) : pair? a b = pair? (if a = '+' then '0' else a) b := by
  by_cases plus : a = '+'
  · subst plus
    have zero : hexValue? '0' = some 0 := by decide
    simp [pair?, zero]
  · rw [if_neg plus]

theorem pairIff {a b : Char} {x : UInt8} (plain : a ≠ '+') : pair? a b = some x ↔
    a.toLower = hexDigit (x.toNat / 16) ∧ b.toLower = hexDigit (x.toNat % 16) := by
  have size := x.toNat_lt
  rw [pair?, if_neg plain]
  constructor
  · intro read
    obtain ⟨high, first, rest⟩ := Option.bind_eq_some_iff.mp read
    obtain ⟨low, second, rfl⟩ := Option.map_eq_some_iff.mp rest
    obtain ⟨smallHigh, first⟩ := hexValueIff.mp first
    obtain ⟨smallLow, second⟩ := hexValueIff.mp second
    have value : (Nat.toUInt8 (high * 16 + low)).toNat = high * 16 + low := by
      rw [Nat.toUInt8_eq, UInt8.toNat_ofNat']
      omega
    rw [value]
    have quotient : (high * 16 + low) / 16 = high := by omega
    have remainder : (high * 16 + low) % 16 = low := by omega
    rw [quotient, remainder]
    exact ⟨first, second⟩
  · rintro ⟨first, second⟩
    rw [hexValueIff.mpr ⟨by omega, first⟩, hexValueIff.mpr ⟨by omega, second⟩]
    have whole : x.toNat / 16 * 16 + x.toNat % 16 = x.toNat := by omega
    simp only [Option.bind_some, Option.map_some, whole]
    simp

theorem pairsUnsigned (s : List Char) : pairs? s = pairs? (unsigned s) := by
  fun_induction unsigned s with
  | case1 a b rest ih => rw [pairs?, pairs?, pairUnsigned, ih]
  | case2 s => rfl

theorem pairsCons {a b : Char} {rest : List Char} {x : UInt8} {xs : List UInt8} (plain : a ≠ '+') :
    pairs? (a :: b :: rest) = some (x :: xs) ↔
      (a.toLower = hexDigit (x.toNat / 16) ∧ b.toLower = hexDigit (x.toNat % 16)) ∧
        pairs? rest = some xs := by
  rw [pairs?, ← pairIff plain, Option.bind_eq_some_iff]
  constructor
  · rintro ⟨y, first, more⟩
    obtain ⟨ys, others, same⟩ := Option.map_eq_some_iff.mp more
    cases same
    exact ⟨first, others⟩
  · rintro ⟨first, others⟩
    exact ⟨x, first, by rw [others]; rfl⟩

theorem spellsCons {a b : Char} {rest : List Char} {x : UInt8} {xs : List UInt8} :
    Spells (a :: b :: rest) (x :: xs) ↔
      (a.toLower = hexDigit (x.toNat / 16) ∧ b.toLower = hexDigit (x.toNat % 16)) ∧ Spells rest xs := by
  rw [Spells, encodeCons, List.map_cons, List.map_cons, List.cons.injEq, List.cons.injEq, and_assoc]
  rfl

theorem pairsIff {s : List Char} {bytes : List UInt8} :
    pairs? s = some bytes ↔ Spells (unsigned s) bytes := by
  rw [pairsUnsigned]
  fun_induction unsigned s generalizing bytes with
  | case1 a b rest ih =>
    have plain : (if a = '+' then '0' else a) ≠ '+' := by split <;> simp_all
    cases bytes with
    | nil =>
      refine iff_of_false (fun read => ?_) (by simp [Spells, encode])
      obtain ⟨y, -, more⟩ := Option.bind_eq_some_iff.mp read
      obtain ⟨ys, -, same⟩ := Option.map_eq_some_iff.mp more
      cases same
    | cons x xs => rw [pairsCons plain, spellsCons, ih]
  | case2 s odd =>
    match s, bytes with
    | [], [] => simp [pairs?, Spells, encode]
    | [], x :: xs => simp [pairs?, Spells, encodeCons]
    | [a], [] => simp [pairs?, Spells, encode]
    | [a], x :: xs => simp [pairs?, Spells, encodeCons]
    | a :: b :: rest, _ => exact absurd rfl (odd a b rest)

theorem unsignedSame {s : List Char} (signless : Signless s) : unsigned s = s := by
  fun_induction unsigned s with
  | case1 a b rest ih =>
    have first : a ≠ '+' := fun plus => signless 0 (by rw [plus]; rfl)
    rw [if_neg first, ih fun i => signless (i + 1)]
  | case2 s => rfl

theorem unsignedPlain {s : List Char} (plain : '+' ∉ s) : unsigned s = s :=
  unsignedSame fun _ first => plain (List.mem_of_getElem? first)

theorem decodeIff {text : String} {bytes : List UInt8} (any : bytes ≠ []) :
    decode? text = some bytes ↔ Spells (unsigned text.toList) bytes := by
  rw [decode?]
  split
  · rename_i empty
    have nothing : text.toList = [] := by simpa [String.isEmpty_iff] using empty
    rw [nothing]
    refine iff_of_false nofun fun spells => any ?_
    cases bytes with
    | nil => rfl
    | cons x xs => simp [unsigned, Spells, encodeCons] at spells
  · exact pairsIff

theorem writtenDigits (bytes : List UInt8) : ∀ c ∈ (encode bytes).toList, ∃ v < 16, c = hexDigit v := by
  intro c inside
  rw [encode, String.toList_ofList] at inside
  obtain ⟨x, -, pair⟩ := List.mem_flatMap.mp inside
  have size := x.toNat_lt
  rcases (by simpa using pair : c = hexDigit (x.toNat / 16) ∨ c = hexDigit (x.toNat % 16)) with high | low
  · exact ⟨_, by omega, high⟩
  · exact ⟨_, by omega, low⟩

theorem spellsPlain {s : List Char} {bytes : List UInt8} (spells : Spells s bytes) : '+' ∉ s := by
  intro inside
  have digits : ∀ v < 16, '+' ≠ hexDigit v := by decide
  have written : '+' ∈ (encode bytes).toList := by
    rw [← spells]
    exact List.mem_map.mpr ⟨'+', inside, by decide⟩
  obtain ⟨v, within, same⟩ := writtenDigits bytes _ written
  exact digits v within same

/-! Which texts are hexadecimal at all. -/

def digits : List Char := "0123456789abcdefABCDEF".toList

structure IsHex (s : List Char) : Prop where
  filled : s ≠ []
  paired : s.length % 2 = 0
  digits : ∀ c ∈ s, c ∈ digits

instance (s : List Char) : Decidable (IsHex s) :=
  decidable_of_iff ((!s.isEmpty && s.length % 2 == 0 && s.all (digits.contains ·)) = true) <| by
    simp only [Bool.and_eq_true, Bool.not_eq_true', List.isEmpty_eq_false_iff, beq_iff_eq, List.all_eq_true,
      List.contains_iff_mem]
    exact ⟨fun ⟨⟨filled, paired⟩, digits⟩ => ⟨filled, paired, digits⟩,
      fun hex => ⟨⟨hex.filled, hex.paired⟩, hex.digits⟩⟩

theorem digitRead : ∀ c ∈ digits, (hexValue? c).isSome = true := by
  have all : (digits.all fun c => (hexValue? c).isSome) = true := by decide +kernel
  exact List.all_eq_true.mp all

theorem asciiListed : ∀ n < 128, (hexValue? (Char.ofNat n)).isSome = true → Char.ofNat n ∈ digits := by
  decide +kernel

theorem digitIff {c : Char} : c ∈ digits ↔ ∃ v, hexValue? c = some v := by
  rw [← Option.isSome_iff_exists]
  refine ⟨digitRead c, fun reads => ?_⟩
  rcases Nat.lt_or_ge c.toNat 128 with low | high
  · have listed := asciiListed c.toNat low
    rw [Char.ofNat_toNat] at listed
    exact listed reads
  · rw [(noDigitBeyond high).1] at reads
    cases reads

theorem pairReads {a b : Char} (plain : a ≠ '+') :
    (∃ x, pair? a b = some x) ↔ a ∈ digits ∧ b ∈ digits := by
  rw [pair?, if_neg plain, digitIff, digitIff]
  constructor
  · rintro ⟨x, read⟩
    obtain ⟨high, first, rest⟩ := Option.bind_eq_some_iff.mp read
    obtain ⟨low, second, -⟩ := Option.map_eq_some_iff.mp rest
    exact ⟨⟨high, first⟩, low, second⟩
  · rintro ⟨⟨high, first⟩, low, second⟩
    exact ⟨_, by rw [first, second]; rfl⟩

theorem pairsRead (s : List Char) : (∃ bytes, pairs? s = some bytes) ↔
    (unsigned s).length % 2 = 0 ∧ ∀ c ∈ unsigned s, c ∈ digits := by
  fun_induction unsigned s with
  | case1 a b rest ih =>
    have plain : (if a = '+' then '0' else a) ≠ '+' := by split <;> simp_all
    have more : (∃ bytes, pairs? (a :: b :: rest) = some bytes) ↔
        (∃ x, pair? a b = some x) ∧ ∃ xs, pairs? rest = some xs := by
      rw [pairs?]
      cases pair? a b <;> cases pairs? rest <;> simp
    rw [more, pairUnsigned, pairReads plain, ih]
    simp only [List.length_cons, List.forall_mem_cons, Nat.add_assoc, Nat.reduceAdd, Nat.add_mod_right]
    rw [and_left_comm, and_assoc]
  | case2 s odd =>
    match s with
    | [] => simp [pairs?]
    | [a] => simp [pairs?]
    | a :: b :: rest => exact absurd rfl (odd a b rest)

theorem unsignedSome {s : List Char} : unsigned s ≠ [] ↔ s ≠ [] := by
  fun_cases unsigned s <;> simp

theorem nonempty {text : String} : text.isEmpty = false ↔ text.toList ≠ [] := by
  rw [ne_eq, String.toList_eq_nil_iff, ← String.isEmpty_iff, Bool.not_eq_true]

theorem decodesIff {text : String} {bytes : List UInt8} : decode? text = some bytes ↔
    IsHex (unsigned text.toList) ∧ Spells (unsigned text.toList) bytes := by
  constructor
  · intro decoded
    unfold decode? at decoded
    split at decoded
    · cases decoded
    · rename_i filled
      obtain ⟨paired, digits⟩ := (pairsRead _).mp ⟨bytes, decoded⟩
      have filled := nonempty.mp (Bool.eq_false_iff.mpr filled)
      exact ⟨⟨unsignedSome.mpr filled, paired, digits⟩, pairsIff.mp decoded⟩
  · rintro ⟨hex, spells⟩
    have filled : text.isEmpty = false := nonempty.mpr (unsignedSome.mp hex.filled)
    rw [decode?, filled]
    exact pairsIff.mpr spells

theorem decodesNone {text : String} : decode? text = none ↔ ¬ IsHex (unsigned text.toList) := by
  constructor
  · intro refused hex
    obtain ⟨bytes, read⟩ := (pairsRead _).mpr ⟨hex.paired, hex.digits⟩
    have decoded := decodesIff.mpr ⟨hex, pairsIff.mp read⟩
    rw [refused] at decoded
    cases decoded
  · intro plain
    cases decoded : decode? text with
    | none => rfl
    | some bytes => exact absurd (decodesIff.mp decoded).1 plain

theorem spellsWritten (bytes : List UInt8) {f : Char → Char}
    (kept : ∀ v < 16, (f (hexDigit v)).toLower = hexDigit v) :
    Spells ((encode bytes).toList.map f) bytes := by
  rw [Spells, List.map_map]
  refine (List.map_congr_left fun c inside => ?_).trans (List.map_id _)
  obtain ⟨v, within, rfl⟩ := writtenDigits bytes c inside
  exact kept v within

theorem decodesSpelt {text : String} {bytes : List UInt8} (any : bytes ≠ [])
    (spells : Spells text.toList bytes) : decode? text = some bytes := by
  rw [decodeIff any, unsignedPlain (spellsPlain spells)]
  exact spells

end Turnstile.Text.Hex
