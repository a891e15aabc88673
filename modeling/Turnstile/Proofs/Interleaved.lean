import Turnstile.Faults
import Turnstile.Proofs.Store.Copies
/-! Procedures amid the calls of others. Before each of its calls, and after the last, others may
have made any calls of their own; each of its calls is answered by the backend as it then
is, or fails and leaves it so. What it read last it can write back only where nobody wrote since. -/
namespace Turnstile

/-- Others have made calls, of any sort and at any time, while the versions last. -/
inductive Backend.Meddled (b : Backend) : Backend → Prop where
  | none : Meddled b b
  | more {middle : Backend} (past : Meddled b middle) (now : Instant) (c : Call)
      (unspent : middle.Unspent) : Meddled b (middle.perform now c).2

inductive Backend.Answered (b : Backend) (c : Call) : c.Reply → Backend → Prop where
  | performed (now : Instant) (unspent : b.Unspent) : Answered b c (b.perform now c).1 (b.perform now c).2
  | failed (failure : Failure) : Answered b c (c.failed failure) b

structure Turn where
  before : Backend
  told : Told
  after : Backend

namespace Turn

structure Idle (x : Turn) : Prop where
  wrote : x.told.wrote? = none
  kept : x.before.store.Idle x.after.store

structure Puts (x : Turn) (k : Kind) (old new : k.Object) : Prop where
  stood : x.before.store.get? k (k.key old) = some old
  wrote : x.told.wrote? = some (Write.of k new)
  put : x.before.store.Puts k new x.after.store

def attempts (log : List Turn) : Nat := log.countP (·.told.call.takesVersion)

def AllIdle (log : List Turn) : Prop := ∀ x ∈ log, x.Idle

def LastOnly (effect : Turn → Prop) (log : List Turn) : Prop :=
  ∃ before last, log = before ++ [last] ∧ AllIdle before ∧ effect last

structure Once (effect : Turn → Prop) (limit : Nat) (done : Prop) (log : List Turn) : Prop where
  within : attempts log ≤ limit
  ends : (done ∧ LastOnly effect log) ∨ (¬done ∧ AllIdle log)

section
variable {x : Turn} {log : List Turn} {effect : Turn → Prop} {limit : Nat} {done : Prop}

theorem allIdleNone : AllIdle [] := fun _ inside => nomatch inside

theorem AllIdle.cons (idle : x.Idle) (rest : AllIdle log) : AllIdle (x :: log) :=
  List.forall_mem_cons.mpr ⟨idle, rest⟩

theorem LastOnly.cons (idle : x.Idle) (rest : LastOnly effect log) : LastOnly effect (x :: log) := by
  obtain ⟨before, last, rfl, quiet, takes⟩ := rest
  exact ⟨x :: before, last, rfl, quiet.cons idle, takes⟩

theorem attemptsCons : attempts (x :: log) = attempts log + if x.told.call.takesVersion then 1 else 0 :=
  List.countP_cons

namespace Once

theorem nothing (undone : ¬done) : Once effect limit done [] :=
  ⟨Nat.zero_le _, .inr ⟨undone, allIdleNone⟩⟩

theorem landed (takes : effect x) (finished : done) : Once effect (limit + 1) done [x] where
  within := Nat.le_trans List.countP_le_length (Nat.succ_le_succ (Nat.zero_le limit))
  ends := .inl ⟨finished, [], x, rfl, allIdleNone, takes⟩

theorem preceded (h : Once effect limit done log) (idle : x.Idle) :
    (done ∧ LastOnly effect (x :: log)) ∨ (¬done ∧ AllIdle (x :: log)) :=
  h.ends.imp (fun finished => ⟨finished.1, finished.2.cons idle⟩) fun undone => ⟨undone.1, undone.2.cons idle⟩

theorem read (h : Once effect limit done log) (idle : x.Idle) (reads : x.told.call.takesVersion = false) :
    Once effect limit done (x :: log) where
  within := by
    rw [attemptsCons, reads]
    exact h.within
  ends := h.preceded idle

theorem refused (h : Once effect limit done log) (idle : x.Idle) : Once effect (limit + 1) done (x :: log) where
  within := by
    have least := h.within
    rw [attemptsCons]
    split <;> omega
  ends := h.preceded idle

end Once
end
end Turn

namespace Backend
variable {b after : Backend} {c : Call} {k : Kind} {key : Key} {copy o : k.Object}

theorem Meddled.copies (meddled : b.Meddled after) (copies : b.store.Copies) : after.store.Copies := by
  induction meddled with
  | none => exact copies
  | more _ now c unspent ih => exact copiesLater ih unspent

theorem Meddled.copied (meddled : b.Meddled after) (copied : b.store.Copied k o) : after.store.Copied k o := by
  induction meddled with
  | none => exact copied
  | more _ now c unspent ih => exact copiedLater ih unspent

theorem Answered.copies {reply : c.Reply} (answered : b.Answered c reply after) (copies : b.store.Copies) :
    after.store.Copies := by
  cases answered with
  | performed now unspent => exact copiesLater copies unspent
  | failed failure => exact copies

theorem Answered.got {reply : (Call.get k key).Reply} (answered : b.Answered (.get k key) reply after) :
    after = b ∧ Turn.Idle ⟨b, ⟨.get k key, reply⟩, after⟩ ∧
      ∀ o, reply = .ok (some o) → b.store.get? k key = some o := by
  cases answered with
  | performed now unspent => exact ⟨rfl, ⟨rfl, fun _ => rfl⟩, fun o found => Except.ok.inj found⟩
  | failed failure => exact ⟨rfl, ⟨rfl, fun _ => rfl⟩, fun o found => nomatch found⟩

theorem revised (copied : b.store.Copied k copy) (own : k.key o = k.key copy)
    (version : k.version o = k.version copy) (growth : UInt64)
    (merge : (stored incoming : k.Object) → k.Object) {told : Told} {reply : Except StoreError k.Object}
    (wrote : told.wrote? = reply.toOption.map (Write.of k))
    (asked : (reply, after.store) = b.store.write k fun version c => c.replace version growth merge o) :
    ((∃ e, reply = .error e) ∧ Turn.Idle ⟨b, told, after⟩) ∨
    ∃ v, reply = .ok (Collection.laterWrite v growth copy (merge copy o)) ∧
      Turn.Puts ⟨b, told, after⟩ k copy (Collection.laterWrite v growth copy (merge copy o)) := by
  cases answered : reply with
  | error e =>
    rw [answered] at wrote asked
    refine .inl ⟨⟨e, rfl⟩, wrote, ?_⟩
    have outcome : b.store.Outcome k (.error e, after.store) := asked ▸ Store.replaceOutcome growth merge o
    cases outcome with
    | refused kept => exact kept
  | ok stored =>
    rw [answered] at wrote asked
    obtain ⟨stood, rfl, put⟩ := Store.writtenBack copied own version growth merge (congrArg Prod.fst asked).symm
    rw [← congrArg Prod.snd asked] at put
    exact .inr ⟨_, rfl, stood, wrote, put⟩

theorem Answered.updated {reply : (Call.update k o).Reply} (answered : b.Answered (.update k o) reply after)
    (copied : b.store.Copied k copy) (own : k.key o = k.key copy) (version : k.version o = k.version copy) :
    ((∃ e, reply = .error e) ∧ Turn.Idle ⟨b, ⟨.update k o, reply⟩, after⟩) ∨
    ∃ v, reply = .ok (Collection.laterWrite v 1 copy (k.keepStatus copy o)) ∧
      Turn.Puts ⟨b, ⟨.update k o, reply⟩, after⟩ k copy
        (Collection.laterWrite v 1 copy (k.keepStatus copy o)) := by
  cases answered with
  | performed now unspent => exact revised copied own version 1 k.keepStatus rfl rfl
  | failed failure => exact .inl ⟨⟨_, rfl⟩, rfl, fun _ => rfl⟩

theorem Answered.restatused {reply : (Call.updateStatus k o).Reply} (answered : b.Answered (.updateStatus k o) reply after)
    (copied : b.store.Copied k copy) (own : k.key o = k.key copy) (version : k.version o = k.version copy) :
    ((∃ e, reply = .error e) ∧ Turn.Idle ⟨b, ⟨.updateStatus k o, reply⟩, after⟩) ∨
    ∃ v, reply = .ok (Collection.laterWrite v 0 copy (k.takeStatus copy o)) ∧
      Turn.Puts ⟨b, ⟨.updateStatus k o, reply⟩, after⟩ k copy
        (Collection.laterWrite v 0 copy (k.takeStatus copy o)) := by
  cases answered with
  | performed now unspent => exact revised copied own version 0 k.takeStatus rfl rfl
  | failed failure => exact .inl ⟨⟨_, rfl⟩, rfl, fun _ => rfl⟩

def meddle (now : Instant) (b : Backend) (calls : List Call) : Backend :=
  calls.foldl (fun b c => (b.perform now c).2) b

theorem meddleMeddled (now : Instant) (calls : List Call)
    (room : b.store.version.toNat + calls.length + 1 < UInt64.size) :
    b.Meddled (b.meddle now calls) ∧
      (b.meddle now calls).store.version.toNat ≤ b.store.version.toNat + calls.length := by
  suffices later : ∀ middle : Backend, b.Meddled middle →
      middle.store.version.toNat + calls.length + 1 < UInt64.size →
      b.Meddled (middle.meddle now calls) ∧
        (middle.meddle now calls).store.version.toNat ≤ middle.store.version.toNat + calls.length from
    later b .none room
  clear room
  induction calls with
  | nil => exact fun middle past _ => ⟨past, Nat.le_refl _⟩
  | cons c rest ih =>
    intro middle past room
    rw [List.length_cons] at room ⊢
    have unspent : middle.Unspent := by
      unfold Unspent
      omega
    have spends := performSpends now c unspent
    obtain ⟨meddled, spent⟩ := ih (middle.perform now c).2 (.more past now c unspent) (by omega)
    refine ⟨meddled, ?_⟩
    change ((middle.perform now c).2.meddle now rest).store.version.toNat ≤ _
    omega

end Backend

namespace Procedure
variable {α : Type} {a : α} {b last : Backend} {log : List Turn}

/-- A run of a procedure amid the calls of others, turn by turn. -/
inductive Amid : Procedure α → Backend → List Turn → α → Backend → Prop where
  | done {a : α} {b last : Backend} (between : b.Meddled last) : Amid (done a) b [] a last
  | asked {c : Call} {next : c.Reply → Procedure α} {b before after last : Backend} {reply : c.Reply}
      {log : List Turn} {a : α} (between : b.Meddled before) (answered : before.Answered c reply after)
      (rest : Amid (next reply) after log a last) :
      Amid (call c next) b (⟨before, ⟨c, reply⟩, after⟩ :: log) a last

theorem Amid.next {c : Call} {f : c.Reply → Procedure α} (amid : Amid (ask c >>= f) b log a last) :
    ∃ before reply after rest, log = ⟨before, ⟨c, reply⟩, after⟩ :: rest ∧ b.Meddled before ∧
      before.Answered c reply after ∧ Amid (f reply) after rest a last := by
  replace amid : Amid (call c f) b log a last := amid
  cases amid with
  | asked between answered rest => exact ⟨_, _, _, _, rfl, between, answered, rest⟩

theorem Amid.read {k : Kind} {key : Key} {f : (Call.get k key).Reply → Procedure α}
    (copies : b.store.Copies) (amid : Amid (ask (.get k key) >>= f) b log a last) :
    ∃ turn reply after rest, log = turn :: rest ∧ turn.Idle ∧ turn.told.call.takesVersion = false ∧
      after.store.Copies ∧ (∀ o, reply = .ok (some o) → k.key o = key ∧ after.store.Copied k o) ∧
      Amid (f reply) after rest a last := by
  obtain ⟨before, reply, after, rest, rfl, between, answered, later⟩ := amid.next
  obtain ⟨rfl, idle, found⟩ := answered.got
  have copies := between.copies copies
  refine ⟨_, reply, after, rest, rfl, idle, rfl, copies, fun o same => ?_, later⟩
  have stored := found o same
  exact ⟨(after.store.collection k).keyed stored, copies k key o stored⟩

def amidst (now : Instant) : Procedure α → List (List Call) → Backend → List Turn × α × Backend
  | done a, others, b => ([], a, b.meddle now (others.headD []))
  | call c next, others, b =>
    let before := b.meddle now (others.headD [])
    let answered := before.perform now c
    let rest := amidst now (next answered.1) others.tail answered.2
    (⟨before, ⟨c, answered.1⟩, answered.2⟩ :: rest.1, rest.2)

theorem amidstAmid (now : Instant) (p : Procedure α) (others : List (List Call)) (b : Backend)
    (room : b.store.version.toNat + others.flatten.length + (p.amidst now others b).1.length + 1 < UInt64.size) :
    Amid p b (p.amidst now others b).1 (p.amidst now others b).2.1 (p.amidst now others b).2.2 := by
  have split : others.flatten.length = (others.headD []).length + others.tail.flatten.length := by
    cases others <;> simp
  induction p generalizing others b with
  | done a => exact .done (Backend.meddleMeddled now _ (by omega)).1
  | call c next ih =>
    obtain ⟨between, spent⟩ := Backend.meddleMeddled (b := b) now (others.headD []) (by omega)
    unfold amidst at room ⊢
    generalize b.meddle now (others.headD []) = before at *
    have unspent : before.Unspent := by
      unfold Backend.Unspent
      omega
    have spends := Backend.performSpends now c unspent
    dsimp only at room ⊢
    rw [List.length_cons] at room
    refine .asked between (.performed now unspent) (ih _ _ _ (by omega) ?_)
    cases others.tail <;> simp

end Procedure
end Turnstile
