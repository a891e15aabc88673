import Turnstile.Json.Wire
import Turnstile.Proofs.Json.Text
/-! Written forms that read as what was written. A record is read field by field,
each from its own member, or from its default where the member is left out; its
members stand in order, so that its text reads as well. -/
namespace Turnstile
open Json

namespace Wire
variable {α : Type} [Wire α]

structure Returns (a : α) : Prop where
  read : ofJson? (toJson a) = some a
  solid : toJson a ≠ .null

class Lossless (α : Type) [Wire α] : Prop where
  returns (a : α) : Returns a

export Lossless (returns)

theorem each {γ : Type} [Membership α γ] [Lossless α] (values : γ) : ∀ a ∈ values, Returns a :=
  fun a _ => returns a

instance : Lossless String := ⟨fun _ => ⟨rfl, Json.noConfusion⟩⟩

theorem wholeWithin {low high n : Int} (within : low ≤ n ∧ n ≤ high) :
    whole? low high (.int n) = some n := by
  simp [whole?, within]

theorem naturalWithin {high : Int} {n : Nat} (within : (n : Int) ≤ high) :
    whole? 0 high (.int n) = some (n : Int) :=
  wholeWithin ⟨Int.natCast_nonneg n, within⟩

instance : Lossless UInt32 where
  returns n := by
    refine ⟨?_, Json.noConfusion⟩
    change (whole? 0 0xffffffff (.int n.toNat)).map _ = some n
    rw [naturalWithin (by have := n.toNat_lt; omega)]
    simp

instance : Lossless UInt64 where
  returns n := by
    refine ⟨?_, Json.noConfusion⟩
    change (whole? 0 0xffffffffffffffff (.int n.toNat)).map _ = some n
    rw [naturalWithin (by have := n.toNat_lt; omega)]
    simp

instance : Lossless Int32 where
  returns n := by
    refine ⟨?_, Json.noConfusion⟩
    change (whole? (-0x80000000) 0x7fffffff (.int n.toInt)).map _ = some n
    rw [wholeWithin (by have := n.le_toInt; have := n.toInt_lt; omega)]
    simp

theorem allRead {xs : List α} (back : ∀ x ∈ xs, Returns x) :
    all? ofJson? (xs.map toJson) = some xs := by
  induction xs with
  | nil => rfl
  | cons x rest ih =>
    simp only [List.map_cons, all?, (back x List.mem_cons_self).read,
      ih fun y inside => back y (List.mem_cons_of_mem x inside), Option.map_some]

theorem returnsList {xs : List α} (back : ∀ x ∈ xs, Returns x) : Returns xs :=
  ⟨allRead back, Json.noConfusion⟩

instance [Lossless α] : Lossless (List α) := ⟨fun _ => returnsList fun x _ => returns x⟩

theorem returnsMap {m : SortedMap String α} (back : ∀ v ∈ m.values, Returns v) : Returns m := by
  refine ⟨?_, Json.noConfusion⟩
  have entries : all? (fun e : String × Json => (ofJson? e.2).map fun v => (e.1, v))
      (m.entries.map fun e => (e.1, toJson e.2)) = some m.entries := by
    have each : ∀ e ∈ m.entries, Returns e.2 := fun e inside => back e.2 (List.mem_map_of_mem inside)
    generalize m.entries = es at each
    induction es with
    | nil => rfl
    | cons e rest ih =>
      simp only [List.map_cons, all?, (each e List.mem_cons_self).read,
        ih fun y inside => each y (List.mem_cons_of_mem e inside), Option.map_some]
  change (all? _ _).map SortedMap.ofList = some m
  rw [entries, Option.map_some, SortedMap.ofListEntries]

instance [Lossless α] : Lossless (SortedMap String α) := ⟨fun _ => returnsMap fun v _ => returns v⟩

end Wire

namespace Json
open SortedMap Wire
variable {α : Type} [Wire α]

section Members
variable (name other : String)

@[simp] theorem lookupAppend (first second : List (String × Json)) :
    lookup name (first ++ second) = (lookup name first).or (lookup name second) := by
  induction first with
  | nil => rfl
  | cons head rest ih =>
    simp only [List.cons_append, lookup, ih]
    split <;> rfl

@[simp] theorem lookupMember (a : α) :
    lookup name (member other a) = if name = other then some (toJson a) else none := by
  simp [member, lookup]

@[simp] theorem lookupMemberIfSome (o : Option α) :
    lookup name (memberIfSome other o) = if name = other then o.map toJson else none := by
  cases o <;> simp [memberIfSome, lookup]

@[simp] theorem lookupMemberUnlessEmpty (xs : List α) :
    lookup name (memberUnlessEmpty other xs) =
      if name = other then (if xs.isEmpty then none else some (toJson xs)) else none := by
  cases xs <;> simp [memberUnlessEmpty, lookup]

@[simp] theorem lookupMemberIfAny (m : SortedMap String α) :
    lookup name (memberIfAny other m) =
      if name = other then (if m.isEmpty then none else some (toJson m)) else none := by
  unfold memberIfAny
  split <;> simp [lookup]

end Members

namespace Record
variable {β : Type} {members : List (String × Json)} {position : Nat} {name : String}

theorem readRequired {a : α} {more : α → Option β} (found : lookup name members = some (toJson a))
    (back : Returns a) : ((named members).required position name >>= more) = more a := by
  simp only [required, field?, found, Option.bind_some, back.read, Option.bind_eq_bind]

theorem readDefaulted {a value : α} {more : α → Option β}
    (found : lookup name members = some (toJson a)) (back : Returns a) :
    ((named members).defaulted position name value >>= more) = more a := by
  simp only [defaulted, field?, found, back.read, Option.bind_eq_bind, Option.bind_some]

theorem readOptional {o : Option α} {more : Option α → Option β}
    (found : lookup name members = o.map toJson) (back : ∀ a ∈ o, Returns a) :
    ((named members).optional position name >>= more) = more o := by
  simp only [optional, field?, found]
  cases o with
  | none => rfl
  | some a =>
    have solid := (back a rfl).solid
    have read := (back a rfl).read
    simp only [Option.map_some, read, Option.bind_eq_bind, Option.bind_some]

theorem readList {xs : List α} {more : List α → Option β}
    (found : lookup name members = if xs.isEmpty then none else some (toJson xs))
    (back : ∀ x ∈ xs, Returns x) :
    ((named members).defaulted position name [] >>= more) = more xs := by
  cases xs with
  | nil =>
    simp only [defaulted, field?, found, List.isEmpty_nil, if_true, Option.bind_eq_bind,
      Option.bind_some]
  | cons x rest => exact readDefaulted found (returnsList back)

theorem readMap {m : SortedMap String α} {more : SortedMap String α → Option β}
    (found : lookup name members = if m.isEmpty then none else some (toJson m))
    (back : ∀ v ∈ m.values, Returns v) :
    ((named members).defaulted position name SortedMap.empty >>= more) = more m := by
  by_cases any : m.isEmpty = true
  · rw [if_pos any] at found
    have nothing : m = SortedMap.empty := SortedMap.ext (List.isEmpty_iff.mp any)
    simp only [defaulted, field?, found, nothing, Option.bind_eq_bind, Option.bind_some]
  · rw [if_neg any] at found
    exact readDefaulted found (returnsMap back)

theorem returnsRecord {a : α} {count : Nat} {fields : Record → Option α}
    (written : toJson a = .object members)
    (reading : ∀ j : Json, ofJson? j = (record? count j >>= fields))
    (back : fields (named members) = some a) : Returns a where
  read := by
    rw [written, reading]
    exact back
  solid := by
    rw [written]
    exact Json.noConfusion

theorem returnsTagged {a : α} {tag : String} {count : Nat} {fields : Record → Option α}
    (written : toJson a = .object [(tag, .object members)])
    (reading : ∀ j : Json, ofJson? (.object [(tag, j)]) = (record? count j >>= fields))
    (back : fields (named members) = some a) : Returns a where
  read := by
    rw [written, reading]
    exact back
  solid := by
    rw [written]
    exact Json.noConfusion

end Record
end Json

namespace Wire
variable {α : Type} [Wire α] {depth : Nat}

class Plainly (α : Type) [Wire α] (depth : outParam Nat) : Prop where
  plain (a : α) : Plain depth (toJson a)

section Basic

instance : Plainly String 0 := ⟨fun s => .string s⟩

instance : Plainly UInt32 0 where
  plain n := .int (by omega) (by have := n.toNat_lt; omega)

instance : Plainly UInt64 0 where
  plain n := .int (by omega) (by have := n.toNat_lt; omega)

instance : Plainly Int32 0 where
  plain n := .int (by have := n.le_toInt; omega) (by have := n.toInt_lt; omega)

instance [Plainly α depth] : Plainly (List α) (depth + 1) where
  plain xs := .array fun j inside => by
    obtain ⟨x, -, rfl⟩ := List.mem_map.mp inside
    exact Plainly.plain x

instance [Plainly α depth] : Plainly (SortedMap String α) (depth + 1) where
  plain m := .object (List.pairwise_map.mpr m.increasing) fun e inside => by
    obtain ⟨entry, -, rfl⟩ := List.mem_map.mp inside
    exact Plainly.plain entry.2

end Basic

class Listed (members : List (String × Json)) (depth : outParam Nat) (names : outParam (List String)) :
    Prop where
  named : (members.map Prod.fst).Sublist names
  plain : ∀ e ∈ members, Plain depth e.2

section Members
variable [Plainly α depth] (name : String)

instance (a : α) : Listed (member name a) depth [name] where
  named := .refl _
  plain e inside := by
    rw [List.mem_singleton.mp inside]
    exact Plainly.plain a

instance (o : Option α) : Listed (memberIfSome name o) depth [name] where
  named := by cases o <;> simp [memberIfSome]
  plain e inside := by
    cases o with
    | none => cases inside
    | some a =>
      rw [List.mem_singleton.mp inside]
      exact Plainly.plain a

instance (xs : List α) : Listed (memberUnlessEmpty name xs) (depth + 1) [name] where
  named := by cases xs <;> simp [memberUnlessEmpty]
  plain e inside := by
    cases xs with
    | nil => cases inside
    | cons x rest =>
      rw [List.mem_singleton.mp inside]
      exact Plainly.plain (x :: rest)

instance (m : SortedMap String α) : Listed (memberIfAny name m) (depth + 1) [name] where
  named := by
    unfold memberIfAny
    split <;> simp
  plain e inside := by
    unfold memberIfAny at inside
    split at inside
    · cases inside
    · rw [List.mem_singleton.mp inside]
      exact Plainly.plain m

end Members

instance (first second : List (String × Json)) {d e : Nat} {before after : List String}
    [one : Listed first d before] [two : Listed second e after] :
    Listed (first ++ second) (max d e) (before ++ after) where
  named := by
    rw [List.map_append]
    exact one.named.append two.named
  plain m inside := by
    rcases List.mem_append.mp inside with there | there
    · exact (one.plain m there).deeper (Nat.le_max_left d e)
    · exact (two.plain m there).deeper (Nat.le_max_right d e)

theorem recordPlain {members : List (String × Json)} {names : List String} {bound : Nat}
    [listed : Listed members depth names] (sorted : names.Pairwise fun a b => compare a b = .lt)
    (fits : depth < bound) : Plain bound (.object members) :=
  (Plain.object (List.pairwise_map.mp (sorted.sublist listed.named)) listed.plain).deeper fits

end Wire
end Turnstile
