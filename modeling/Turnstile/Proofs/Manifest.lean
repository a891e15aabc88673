import Turnstile.Manifest.Basic
import Turnstile.Proofs.Store.Forms
/-! Manifests and objects written and read back, as JSON and as its text. -/
namespace Turnstile
open SortedMap

theorem filterInserted {name : String} {j : Json} {members : List (String × Json)}
    (absent : ∀ e ∈ members, e.1 ≠ name) :
    (insertEntry name j members).filter (fun e => e.1 != name) = members := by
  induction members with
  | nil => simp [insertEntry]
  | cons head rest ih =>
    have apart : head.1 ≠ name := absent head List.mem_cons_self
    have others := ih fun e inside => absent e (List.mem_cons_of_mem head inside)
    have kept : rest.filter (fun e => e.1 != name) = rest :=
      List.filter_eq_self.mpr fun e inside => by
        simpa using absent e (List.mem_cons_of_mem head inside)
    unfold insertEntry
    split
    · simp [apart, kept]
    · rename_i same
      exact absurd (Std.LawfulEqOrd.eq_of_compare same).symm apart
    · simp [apart, others]

namespace Manifest

def times (m : Manifest) : List Instant := m.kind.times m.object

theorem kindRead (k : Kind) : kindOf? (.string k.text) = some k := by
  cases k <;> rfl

theorem written (m : Manifest) :
    ∃ members, m.kind.toJson m.object = .object members ∧ (∀ e ∈ members, e.1 ≠ kindMember) ∧
      m.toJson = .object (insertEntry kindMember (.string m.kind.text) members) := by
  obtain ⟨members, form, named⟩ := m.kind.writtenObject m.object
  refine ⟨members, form, fun e inside same => ?_, by rw [toJson, form]⟩
  have listed := named e inside
  rw [same] at listed
  revert listed
  cases m.kind <;> decide

theorem readWritten {m : Manifest} (four : ∀ i ∈ m.times, i.FourDigitYear) :
    ofJson? m.toJson = some m := by
  obtain ⟨members, form, absent, whole⟩ := m.written
  have kind : lookup kindMember (insertEntry kindMember (.string m.kind.text) members) =
      some (.string m.kind.text) := by
    rw [lookupInsertEntry, Std.compare_self, if_pos rfl]
  have object := Kind.readWritten four
  rw [form] at object
  rw [whole, ofJson?, kind]
  simp only [Option.bind_some, kindRead, Option.bind_eq_bind, filterInserted absent, withKind?, object,
    Option.map_some]

theorem writtenPlain (m : Manifest) : Json.Plain 7 m.toJson := by
  obtain ⟨members, form, -, whole⟩ := m.written
  have plain := m.kind.writtenPlain m.object
  rw [form] at plain
  rw [whole]
  cases plain with
  | object sorted each =>
    refine .object (increasingInsertEntry sorted) fun e inside => ?_
    rcases List.mem_cons.mp ((insertEntryPerm sorted).mem_iff.mp inside) with kind | old
    · rw [kind]
      exact .string _
    · exact each e (List.mem_filter.mp old).1

theorem ofWrittenText {m : Manifest} (four : ∀ i ∈ m.times, i.FourDigitYear) :
    ofJsonText m.toJson.compact = .ok [m] := by
  have text := (m.writtenPlain.deeper (by decide)).readCompact
  obtain ⟨members, -, -, whole⟩ := m.written
  have read := readWritten four
  rw [whole] at text read ⊢
  simp only [ofJsonText, text, read]

end Manifest

/-- Values that come back from their written forms, if they are in range: read and read
from their text they are the same, and no two of them are written alike. -/
structure RoundTrip {α : Type} (write : α → Json) (read : Json → Option α) (fits : α → Prop) : Prop where
  value : ∀ a, fits a → read (write a) = some a
  text : ∀ a, fits a → (Json.read? (write a).compact).bind read = some a
  distinct : ∀ a b, fits a → fits b → write a = write b → a = b
  distinctText : ∀ a b, fits a → fits b → (write a).compact = (write b).compact → a = b
  -- Writing what was read again changes nothing, whatever form the value was read from.
  settled : ∀ j a, read j = some a → fits a →
    (((read j).map write).bind read).map write = (read j).map write

theorem RoundTrip.ofForms {α : Type} {write : α → Json} {read : Json → Option α} {fits : α → Prop}
    (value : ∀ a, fits a → read (write a) = some a) (plain : ∀ a, Json.Plain 127 (write a)) :
    RoundTrip write read fits where
  value := value
  text a fit := by rw [(plain a).readCompact, Option.bind_some, value a fit]
  distinct a b fit other same := by
    have one := value a fit
    rw [same, value b other] at one
    exact (Option.some.inj one).symm
  distinctText a b fit other same := by
    have one := (plain a).readCompact
    rw [same, (plain b).readCompact] at one
    have back := value a fit
    rw [← Option.some.inj one, value b other] at back
    exact (Option.some.inj back).symm
  settled j a was fit := by
    rw [was, Option.map_some, Option.bind_some, value a fit, Option.map_some]

theorem formsReturn :
    (∀ k : Kind, RoundTrip k.toJson k.ofJson? fun o => ∀ i ∈ k.times o, i.FourDigitYear) ∧
      (RoundTrip Manifest.toJson Manifest.ofJson? fun m => ∀ i ∈ m.times, i.FourDigitYear) ∧
      ∀ m : Manifest, (∀ i ∈ m.times, i.FourDigitYear) →
        Manifest.ofJsonText m.toJson.compact = .ok [m] := by
  refine ⟨fun k => ?_, ?_, fun m four => Manifest.ofWrittenText four⟩
  · exact .ofForms (fun o four => Kind.readWritten four) fun o =>
      (k.writtenPlain o).deeper (by decide)
  · exact .ofForms (fun m four => Manifest.readWritten four) fun m =>
      m.writtenPlain.deeper (by decide)

def leapTask : Task where
  metadata := { Metadata.ofKey ⟨"team", "build"⟩ with
    uid := Uid.ofNat 0xffffffffffffffffffffffffffffffff, creationTimestamp := some (.ofNanoseconds 1) }
  spec := ⟨"", none, [⟨none, .url, "a \"quoted\" \n line"⟩], [], some ⟨"base", none⟩, some .standard⟩
  status := { TaskStatus.fresh with
    phase := some .failed
    completionTime := some ⟨1483228799, 1500000000, .inr (by decide)⟩
    exitCode := some (-1) }

theorem leapTaskReturns :
    (∀ i ∈ Manifest.times ⟨.task, leapTask⟩, i.FourDigitYear) ∧
      Manifest.ofJsonText (Manifest.toJson ⟨.task, leapTask⟩).compact = .ok [⟨.task, leapTask⟩] :=
  ⟨by decide, formsReturn.2.2 ⟨.task, leapTask⟩ (by decide)⟩

end Turnstile
