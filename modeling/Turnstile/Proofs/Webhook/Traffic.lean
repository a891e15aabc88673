import Mathlib.Algebra.GroupWithZero.Nat
import Turnstile.Proofs.Admission.Crew
import Turnstile.Proofs.Task.Marking
import Turnstile.Proofs.Webhook.Owing
import Turnstile.Proofs.Webhook.Recording
/-! Requests and syncs side by side. Any of them makes its next call at any time, which may fail, and
others write in between. What the requests have made for a trigger covers what its status
counts and what they owe to it, so that no task is ever counted twice. -/
namespace Turnstile
open Procedure Webhook Turn

def Store.counted (s : Store) (key : Key) : Nat :=
  match s.get? .trigger key with
  | some t => t.status.totalTriggered.toNat
  | none => 0

inductive Errand where
  | idle
  | busy (told : List Told) (rest : Procedure Unit)

namespace Errand

inductive Starts : Procedure Unit → Prop where
  | request (registry : Registry) (sources : SecretSources) (names : Nat → String) (now : Instant)
      (engine : FilterEngine) (request : WebhookRequest) :
      Starts ((handle registry sources names now engine request).1 >>= fun _ => pure ())
  | sync (base : String) (registry : Registry) (key : Key) :
      Starts (TriggerController.sync base registry key >>= fun _ => pure ())
  | resync (base : String) (registry : Registry) :
      Starts (TriggerController.resync base registry >>= fun _ => pure ())

def Obeys : Errand → Prop
  | idle => True
  | busy told rest => Procedure.Obeys MayBook (fun _ _ => True) told rest

def Informed (s : Store) : Errand → Prop
  | idle => True
  | busy told _ => ∀ key t, Told.mk (.get .trigger key) (.ok (some t)) ∈ told →
      t.key = key ∧ s.Copied .trigger t

def owed (key : Key) : Errand → Nat
  | idle => 0
  | busy told _ => Turnstile.owed key told

theorem startsObeys {p : Procedure Unit} (starts : Starts p) :
    Procedure.Obeys MayBook (fun _ _ => True) [] p := by
  cases starts with
  | request => exact Obeys.bind ((handleBooks _ _ _ _ _ _).weaken fun _ _ _ => trivial)
  | sync => exact Obeys.bind ((TriggerController.syncBooks _ _ _).weaken fun _ _ _ => trivial)
  | resync => exact Obeys.bind ((TriggerController.resyncBooks _ _).weaken fun _ _ _ => trivial)

end Errand

structure Traffic where
  backend : Backend
  errands : List Errand
  created : Nat

namespace Traffic
variable {key : Key} {c d : Traffic}

/-- What may happen next: an errand begins, makes a call that is answered or fails, or ends, done or
dropped; and others make any call that does not raise the count of the trigger. -/
inductive Step (key : Key) : Traffic → Traffic → Prop where
  | begun (c : Traffic) {i : Nat} {p : Procedure Unit} (starts : Errand.Starts p)
      (free : c.errands[i]? = some .idle) :
      Step key c { c with errands := c.errands.set i (.busy [] p) }
  | asked (c : Traffic) {i : Nat} {told : List Told} {call : Call} {next : call.Reply → Procedure Unit}
      (now : Instant) (turn : c.errands[i]? = some (.busy told (.call call next))) :
      Step key c {
        backend := (c.backend.perform now call).2
        errands := c.errands.set i (.busy (told ++ [⟨call, (c.backend.perform now call).1⟩])
          (next (c.backend.perform now call).1))
        created := c.created + if (Told.mk call (c.backend.perform now call).1).makes key then 1 else 0 }
  | denied (c : Traffic) {i : Nat} {told : List Told} {call : Call} {next : call.Reply → Procedure Unit}
      (failure : Failure) (turn : c.errands[i]? = some (.busy told (.call call next))) :
      Step key c { c with errands := c.errands.set i (.busy (told ++ [⟨call, call.failed failure⟩])
        (next (call.failed failure))) }
  | ended (c : Traffic) {i : Nat} {told : List Told} {rest : Procedure Unit}
      (turn : c.errands[i]? = some (.busy told rest)) :
      Step key c { c with errands := c.errands.set i .idle }
  | meddled (c : Traffic) (now : Instant) (call : Call)
      (lower : (c.backend.perform now call).2.store.counted key ≤ c.backend.store.counted key) :
      Step key c { c with backend := (c.backend.perform now call).2 }

inductive Reachable (key : Key) : Traffic → Prop where
  | start {c : Traffic} (empty : c.backend.store = .empty) (idle : ∀ e ∈ c.errands, e = .idle)
      (nothing : c.created = 0) : Reachable key c
  | step {c d : Traffic} (past : Reachable key c) (unspent : c.backend.Unspent) (next : Step key c d) :
      Reachable key d

structure Accounted (key : Key) (c : Traffic) : Prop where
  copies : c.backend.store.Copies
  obeys : ∀ e ∈ c.errands, e.Obeys
  informed : ∀ e ∈ c.errands, e.Informed c.backend.store
  covered : c.backend.store.counted key + (c.errands.map (Errand.owed key)).sum ≤ c.created

end Traffic

theorem sumSet {α : Type} {l : List α} {i : Nat} {old : α} (f : α → Nat) (new : α) (there : l[i]? = some old) :
    ((l.set i new).map f).sum + f old = (l.map f).sum + f new := by
  induction l generalizing i with
  | nil => cases there
  | cons a rest ih =>
    cases i with
    | zero =>
      cases there
      simp only [List.set_cons_zero, List.map_cons, List.sum_cons]
      omega
    | succ i =>
      have later := ih (i := i) there
      simp only [List.set_cons_succ, List.map_cons, List.sum_cons]
      omega

def Call.SparesTriggers : Call → Prop
  | .create .trigger _ | .update .trigger _ | .updateStatus .trigger _ | .delete .trigger _ => False
  | _ => True

theorem Backend.sparesTriggers {c : Call} (spares : c.SparesTriggers) (now : Instant) (b : Backend) :
    (b.perform now c).2.store.triggers = b.store.triggers := by
  cases c with
  | get | list | createWorkload | workloadStatus | deleteWorkload => rfl
  | create k o | update k o | updateStatus k o | delete k o =>
    cases k with
    | trigger => exact spares.elim
    | task | agent | template | secret => rfl

theorem mayBook {told : List Told} {c : Call} (may : MayBook told c) :
    (c.SparesTriggers ∧ ∀ key reply, (Told.mk c reply).books key = false) ∨
    ∃ key t s n, c = .updateStatus .trigger { t with status := s } ∧
      Told.mk (.get .trigger key) (.ok (some t)) ∈ told ∧ n ≤ owed key told ∧
      s.totalTriggered = t.status.totalTriggered + UInt64.ofNat n := by
  cases c with
  | get | list | createWorkload | workloadStatus | deleteWorkload => exact .inl ⟨trivial, fun _ _ => rfl⟩
  | create k o | update k o | delete k o =>
    cases k with
    | trigger => exact may.elim
    | task | agent | template | secret => exact .inl ⟨trivial, fun _ _ => rfl⟩
  | updateStatus k o =>
    cases k with
    | trigger =>
      obtain ⟨key, t, read, s, rfl, n, owes, total⟩ := may
      exact .inr ⟨key, t, s, n, rfl, read, owes, total⟩
    | task | agent | template | secret => exact .inl ⟨trivial, fun _ _ => rfl⟩

section
variable {b : Backend} {now : Instant} {key : Key} {told : List Told} {call : Call}

theorem Store.countedSame {s r : Store} (same : s.get? .trigger key = r.get? .trigger key) :
    s.counted key = r.counted key := by
  unfold counted
  rw [same]

theorem Store.countedOf {s : Store} {t : WebhookTrigger} (stored : s.get? .trigger key = some t) :
    s.counted key = t.status.totalTriggered.toNat := by
  unfold counted
  rw [stored]

theorem Backend.countedWritten {t : WebhookTrigger} {s : TriggerStatus} {n : Nat} {u : WebhookTrigger}
    (copied : b.store.Copied .trigger t) (total : s.totalTriggered = t.status.totalTriggered + UInt64.ofNat n)
    (done : (b.perform now (.updateStatus .trigger { t with status := s })).1 = .ok u) :
    (b.perform now (.updateStatus .trigger { t with status := s })).2.store.counted t.key ≤
      b.store.counted t.key + n ∧
    ∀ other, other ≠ t.key →
      (b.perform now (.updateStatus .trigger { t with status := s })).2.store.counted other =
        b.store.counted other := by
  obtain ⟨stood, rfl, put, -⟩ := Store.writtenBack (k := .trigger) (o := { t with status := s }) copied
    rfl rfl 0 Kind.trigger.takeStatus done
  refine ⟨?_, fun other apart => ?_⟩
  · have before : b.store.counted t.key = t.status.totalTriggered.toNat := Store.countedOf stood
    have after : (b.perform now (.updateStatus .trigger { t with status := s })).2.store.counted t.key =
        s.totalTriggered.toNat :=
      Store.countedOf ((congrArg (fun c => c.objects.get? t.key) put).trans (Collection.putSame _ _))
    rw [before, after, total, UInt64.toNat_add, UInt64.toNat_ofNat']
    exact Nat.le_trans (Nat.mod_le _ _) (Nat.add_le_add_left (Nat.mod_le _ _) _)
  · exact Store.countedSame ((congrArg (fun c => c.objects.get? other) put).trans (Collection.putOther _ apart))

theorem Backend.getRead {k : Kind} {o : k.Object} {reply : call.Reply}
    (answered : reply = (b.perform now call).1) (same : Told.mk call reply = ⟨.get k key, .ok (some o)⟩) :
    b.store.get? k key = some o := by
  have asked : call = .get k key := congrArg Told.call same
  subst asked answered
  exact Except.ok.inj (eq_of_heq (Told.mk.inj same).2)

theorem Call.failedNothing (key : Key) (failure : Failure) (call : Call) :
    (∀ (k : Kind) (key : Key) (o : k.Object),
      Told.mk call (call.failed failure) ≠ ⟨.get k key, .ok (some o)⟩) ∧
    (Told.mk call (call.failed failure)).makes key = false ∧
    (Told.mk call (call.failed failure)).books key = false := by
  refine ⟨fun k key o same => ?_, ?_, ?_⟩
  · have asked : call = .get k key := congrArg Told.call same
    subst asked
    cases eq_of_heq (Told.mk.inj same).2
  · cases call with
    | create k o => cases k <;> rfl
    | _ => rfl
  · cases call with
    | updateStatus k o => cases k <;> rfl
    | _ => rfl

theorem Backend.askedCovered (key : Key) (now : Instant)
    (informed : ∀ key t, Told.mk (.get .trigger key) (.ok (some t)) ∈ told →
      t.key = key ∧ b.store.Copied .trigger t) (may : MayBook told call) :
    (b.perform now call).2.store.counted key + owed key (told ++ [⟨call, (b.perform now call).1⟩]) ≤
      b.store.counted key + owed key told +
        if (Told.mk call (b.perform now call).1).makes key then 1 else 0 := by
  have more := owedMore key told ⟨call, (b.perform now call).1⟩
  rcases mayBook may with ⟨spares, quiet⟩ | ⟨home, t, s, n, rfl, read, owes, total⟩
  · rw [quiet key] at more
    have same : (b.perform now call).2.store.counted key = b.store.counted key :=
      Store.countedSame (congrArg (fun c => c.objects.get? key) (Backend.sparesTriggers spares now b))
    rw [same, Nat.add_assoc]
    exact Nat.add_le_add_left more _
  · obtain ⟨rfl, copied⟩ := informed home t read
    generalize answered : (b.perform now (.updateStatus .trigger { t with status := s })).1 = reply at more ⊢
    cases reply with
    | error e =>
      -- what fails changes no object, and owes what it owed
      have failed : (Told.mk (.updateStatus .trigger { t with status := s })
          (b.perform now (.updateStatus .trigger { t with status := s })).1).failed = true := by
        rw [answered]
        rfl
      have same : (b.perform now (.updateStatus .trigger { t with status := s })).2.store.counted key =
          b.store.counted key :=
        Store.countedSame (congrArg (fun c => c.objects.get? key) (Backend.performFailed failed .trigger))
      rw [same, Nat.add_assoc]
      exact Nat.add_le_add_left more _
    | ok u =>
      obtain ⟨raised, others⟩ := Backend.countedWritten copied total answered
      by_cases own : key = t.key
      · subst own
        have settled : owed t.key (told ++ [⟨.updateStatus .trigger { t with status := s }, .ok u⟩]) ≤ 0 := by
          simpa [Told.books, WebhookTrigger.key] using more
        exact Nat.le_trans (Nat.add_le_add raised settled) (Nat.add_le_add_left owes _)
      · have aside : (Told.mk (.updateStatus .trigger { t with status := s }) (.ok u)).books key = false :=
          beq_eq_false_iff_ne.mpr (Ne.symm own)
        rw [aside] at more
        rw [others key own, Nat.add_assoc]
        exact Nat.add_le_add_left more _

end

namespace Traffic
variable {key : Key} {c d : Traffic}

theorem informedLater (h : Accounted key c) (unspent : c.backend.Unspent) (now : Instant) (call : Call) :
    ∀ e ∈ c.errands, e.Informed (c.backend.perform now call).2.store := by
  intro e inside
  cases e with
  | idle => trivial
  | busy told rest =>
    intro key t read
    obtain ⟨own, copied⟩ := h.informed _ inside key t read
    exact ⟨own, Backend.copiedLater copied unspent⟩

theorem Step.accounted (step : Step key c d) (unspent : c.backend.Unspent) (h : Accounted key c) :
    Accounted key d := by
  have bounded := h.covered
  cases step with
  | @begun i p starts free =>
    refine ⟨h.copies, allSet h.obeys (Errand.startsObeys starts),
      allSet h.informed fun _ _ read => (List.not_mem_nil read).elim, ?_⟩
    have owes := sumSet (Errand.owed key) (.busy [] p) free
    have none : Errand.owed key (.busy [] p) = 0 := rfl
    dsimp only [Errand.owed] at owes none ⊢
    omega
  | @asked i told call next now turn =>
    have inside := List.mem_of_getElem? turn
    obtain ⟨may, obeys⟩ := h.obeys _ inside
    have later := informedLater h unspent now call
    refine ⟨Backend.copiesLater h.copies unspent, allSet h.obeys (obeys _), allSet later ?_, ?_⟩
    · intro home t read
      rcases List.mem_append.mp read with before | last
      · exact later _ inside home t before
      · have stored := Backend.getRead rfl (List.mem_singleton.mp last).symm
        exact ⟨(c.backend.store.collection .trigger).keyed stored,
          Backend.copiedLater (h.copies _ _ _ stored) unspent⟩
    · have owes := sumSet (Errand.owed key) (.busy (told ++ [⟨call, (c.backend.perform now call).1⟩])
        (next (c.backend.perform now call).1)) turn
      have covered := Backend.askedCovered key now (h.informed _ inside) may
      dsimp only [Errand.owed] at owes ⊢
      omega
  | @denied i told call next failure turn =>
    have inside := List.mem_of_getElem? turn
    refine ⟨h.copies, allSet h.obeys ((h.obeys _ inside).2 _), allSet h.informed ?_, ?_⟩
    · intro home t read
      rcases List.mem_append.mp read with before | last
      · exact h.informed _ inside home t before
      · exact absurd (List.mem_singleton.mp last).symm ((Call.failedNothing key failure call).1 _ _ _)
    · have owes := sumSet (Errand.owed key) (.busy (told ++ [⟨call, call.failed failure⟩])
        (next (call.failed failure))) turn
      have more := owedMore key told ⟨call, call.failed failure⟩
      rw [(Call.failedNothing key failure call).2.1, (Call.failedNothing key failure call).2.2] at more
      simp only [Bool.false_eq_true, if_false] at more
      dsimp only [Errand.owed] at owes ⊢
      omega
  | @ended i told rest turn =>
    refine ⟨h.copies, allSet h.obeys trivial, allSet h.informed trivial, ?_⟩
    have owes := sumSet (Errand.owed key) .idle turn
    dsimp only [Errand.owed] at owes ⊢
    omega
  | meddled now call lower =>
    refine ⟨Backend.copiesLater h.copies unspent, h.obeys, informedLater h unspent now call, ?_⟩
    exact Nat.le_trans (Nat.add_le_add_right lower _) bounded

theorem Reachable.accounted (past : Reachable key c) : Accounted key c := by
  induction past with
  | @start c empty idle nothing =>
    have each : ∀ e ∈ c.errands, e.Obeys ∧ e.Informed c.backend.store ∧ e.owed key = 0 := by
      intro e inside
      rw [idle e inside]
      exact ⟨trivial, trivial, rfl⟩
    refine ⟨Store.emptyCopies empty, fun e inside => (each e inside).1, fun e inside => (each e inside).2.1, ?_⟩
    have owes : (c.errands.map (Errand.owed key)).sum = 0 := by
      rw [List.sum_eq_zero_iff_forall_eq_nat]
      intro n inside
      obtain ⟨e, listed, rfl⟩ := List.mem_map.mp inside
      exact (each e listed).2.2
    rw [owes, nothing, empty]
    exact Nat.le_refl _
  | step _ unspent next ih => exact next.accounted unspent ih

/-- However others write in between, and whichever calls fail, a loop that starts over after a
conflict tries three writes at most. Asking for a stop marks the task as it is stored at its last
write and says so, or writes nothing. Recording adds the tasks of a request to the status as it is
stored at its last write, or writes nothing; so while only requests and syncs raise the count of a
trigger, it is at most the number of tasks that requests made. -/
theorem conflictsApplyOnce {start : Backend} (empty : start.store = .empty) :
    (∀ key log reply last, Amid (Task.requestStop key) start log reply last →
      Once (fun x => ∃ t u, Task.Marks key x t u) 3 (reply = .ok true) log) ∧
    (∀ now key made log done last, Amid (record now key made conflictAttempts) start log done last →
      attempts log ≤ 3 ∧ (LastOnly (fun x => ∃ t u, Counts key now made x t u) log ∨ AllIdle log)) ∧
    (∀ key c, Reachable key c → ∀ t, c.backend.store.get? .trigger key = some t →
      t.status.totalTriggered.toNat ≤ c.created) := by
  have copies := Store.emptyCopies empty
  refine ⟨fun key log reply last amid => Task.stopOnce copies amid,
    fun now key made log done last amid => ?_, fun key c past t stored => ?_⟩
  · obtain ⟨counted, once⟩ := recordOnce copies amid
    exact ⟨once.within, once.ends.imp And.right And.right⟩
  · have covered := past.accounted.covered
    rw [Store.countedOf stored] at covered
    exact Nat.le_trans (Nat.le_add_right _ _) covered

def redescribing : List (List Call) :=
  [[.create .task (Task.bare ⟨"ns", "task"⟩ "agent")],
    [.update .task { Task.bare ⟨"ns", "task"⟩ "agent" with spec.description := "anew" }]]

def stopRetried : List Turn × Except StoreError Bool × Backend :=
  (Task.requestStop ⟨"ns", "task"⟩).amidst default redescribing .empty

def chime : WebhookTrigger :=
  ⟨Metadata.ofKey ⟨"ns", "hook"⟩, ⟨none, "", .allow, some ⟨"", none, [], [], none, .empty⟩, []⟩, .fresh⟩

def filtering : List (List Call) :=
  [[.create .trigger chime], [.update .trigger { chime with spec.filter := "body.ok" }]]

def recordRetried : List Turn × Unit × Backend :=
  (record default ⟨"ns", "hook"⟩ [⟨none, ⟨"ns", "hook-a"⟩⟩] conflictAttempts).amidst default filtering .empty

def ring (name : String) : Procedure Unit :=
  (handle (Registry.empty.register chime).2 ⟨none, .empty⟩ (fun _ => name) default .empty
    ⟨"ns/hook", .empty, Auth.bytesOf "[]"⟩).1 >>= fun _ => pure ()

theorem ringStarts (name : String) : Errand.Starts (ring name) := .request _ _ _ _ _ _

def turn (key : Key) (now : Instant) (c : Traffic) (i : Nat) : Traffic :=
  match c.errands[i]? with
  | some (.busy told (.call asks next)) =>
    { backend := (c.backend.perform now asks).2
      errands := c.errands.set i (.busy (told ++ [⟨asks, (c.backend.perform now asks).1⟩])
        (next (c.backend.perform now asks).1))
      created := c.created + if (Told.mk asks (c.backend.perform now asks).1).makes key then 1 else 0 }
  | _ => c

theorem turnsReachable (now : Instant) (turns : List Nat) (past : Reachable key c)
    (room : c.backend.store.version.toNat + turns.length + 1 < UInt64.size) :
    Reachable key (turns.foldl (turn key now) c) := by
  induction turns generalizing c with
  | nil => exact past
  | cons i rest ih =>
    rw [List.length_cons] at room
    have unspent : c.backend.Unspent := by
      unfold Backend.Unspent
      omega
    rw [List.foldl_cons]
    unfold turn
    split
    · rename_i asks _ turn
      have spends := Backend.performSpends now asks unspent
      exact ih (.step past unspent (.asked c now turn)) (by dsimp only; omega)
    · exact ih past (by omega)

def rung : Traffic where
  backend := (Backend.empty.perform default (.create .trigger chime)).2
  errands := [.busy [] (ring "a"), .busy [] (ring "b")]
  created := 0

theorem rungReachable : Reachable ⟨"ns", "hook"⟩ rung := by
  have nothing : Reachable ⟨"ns", "hook"⟩ ⟨.empty, [.idle, .idle], 0⟩ := .start rfl (by simp) rfl
  have chimes := nothing.step (by decide) (.meddled _ default (.create .trigger chime) (by decide +kernel))
  have one := chimes.step (by decide +kernel) (.begun _ (i := 0) (ringStarts "a") rfl)
  exact one.step (by decide +kernel) (.begun _ (i := 1) (ringStarts "b") rfl)

def crossed : Traffic := [0, 1, 0, 1, 0, 1, 1, 1].foldl (turn ⟨"ns", "hook"⟩ default) rung

theorem conflictsRetried :
    (attempts stopRetried.1 = 2 ∧ ∃ before last t u, stopRetried.1 = before ++ [last] ∧ AllIdle before ∧
      Task.Marks ⟨"ns", "task"⟩ last t u) ∧
    (attempts recordRetried.1 = 2 ∧ ∃ before last t u, recordRetried.1 = before ++ [last] ∧ AllIdle before ∧
      Counts ⟨"ns", "hook"⟩ default [⟨none, ⟨"ns", "hook-a"⟩⟩] last t u) ∧
    crossed.created = 2 ∧ ∃ t, crossed.backend.store.get? .trigger ⟨"ns", "hook"⟩ = some t ∧
      t.status.totalTriggered = 2 ∧ t.status.totalTriggered.toNat ≤ crossed.created := by
  obtain ⟨stops, records, covers⟩ := @conflictsApplyOnce .empty rfl
  refine ⟨⟨by decide +kernel, ?_⟩, ⟨by decide +kernel, ?_⟩, by decide +kernel, ?_⟩
  · have asked := stops ⟨"ns", "task"⟩ stopRetried.1 stopRetried.2.1 stopRetried.2.2
      (amidstAmid default _ redescribing .empty (by decide +kernel))
    rcases asked.ends with ⟨-, before, last, all, idle, t, u, marks⟩ | ⟨undone, -⟩
    · exact ⟨before, last, t, u, all, idle, marks⟩
    · have said : stopRetried.2.1.toOption = some true := by decide +kernel
      cases reply : stopRetried.2.1 with
      | error e =>
        rw [reply] at said
        cases said
      | ok marked =>
        rw [reply] at said undone
        exact absurd (congrArg _ (Option.some.inj said)) undone
  · obtain ⟨-, counted⟩ := records default ⟨"ns", "hook"⟩ [⟨none, ⟨"ns", "hook-a"⟩⟩] recordRetried.1
      recordRetried.2.1 recordRetried.2.2 (amidstAmid default _ filtering .empty (by decide +kernel))
    rcases counted with ⟨before, last, all, idle, t, u, counts⟩ | idle
    · exact ⟨before, last, t, u, all, idle, counts⟩
    · have wrote : recordRetried.1.any (·.told.wrote?.isSome) = true := by decide +kernel
      obtain ⟨x, inside, written⟩ := List.any_eq_true.mp wrote
      rw [(idle x inside).wrote] at written
      cases written
  · have total : (crossed.backend.store.get? .trigger ⟨"ns", "hook"⟩).map
        (·.status.totalTriggered) = some 2 := by decide +kernel
    obtain ⟨t, stored, two⟩ := Option.map_eq_some_iff.mp total
    have past : Reachable ⟨"ns", "hook"⟩ crossed := turnsReachable default _ rungReachable (by decide +kernel)
    exact ⟨t, stored, two, covers ⟨"ns", "hook"⟩ crossed past t stored⟩

end Traffic
end Turnstile
