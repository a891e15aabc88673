import Turnstile.Proofs.Webhook.Books
import Turnstile.Proofs.Webhook.Rules
/-! What a request owes to the books of a trigger: the tasks that it has made and not counted yet. What
a request or a sync writes to a status adds no more to the count that it read than it owes. -/
namespace Turnstile
open Procedure Webhook

namespace Told
variable (key : Key)

def makes : Told → Bool
  | ⟨.create .task o, .ok _⟩ => (scope key.ns key.name none).matchesMetadata o.metadata
  | _ => false

def books : Told → Bool
  | ⟨.updateStatus .trigger o, .ok _⟩ => o.key == key
  | _ => false

end Told

def madeFor (key : Key) (told : List Told) : Nat := told.countP (Told.makes key)

def owed (key : Key) (told : List Told) : Nat :=
  if told.any (Told.books key) then 0 else madeFor key told

def MayBook (told : List Told) : Call → Prop
  | .updateStatus .trigger o => ∃ key t, Told.mk (.get .trigger key) (.ok (some t)) ∈ told ∧
      ∃ s, o = { t with status := s } ∧
        ∃ n ≤ owed key told, s.totalTriggered = t.status.totalTriggered + UInt64.ofNat n
  | .create .trigger _ | .update .trigger _ | .delete .trigger _ => False
  | _ => True

structure Ahead (key : Key) (n : Nat) (told : List Told) : Prop where
  unbooked : told.any (Told.books key) = false
  made : n ≤ madeFor key told

theorem Procedure.Obeys.ask {α : Type} {allowed : List Told → Call → Prop} {result : List Told → α → Prop}
    {told : List Told} {c : Call} {f : c.Reply → Procedure α} (may : allowed told c)
    (rest : ∀ reply, Obeys allowed result (told ++ [⟨c, reply⟩]) (f reply)) :
    Obeys allowed result told (ask c >>= f) :=
  Obeys.bind ⟨may, rest⟩

section
variable {key : Key} {n : Nat} {told : List Told} {x : Told}

theorem madeMore : madeFor key (told ++ [x]) = madeFor key told + if x.makes key then 1 else 0 := by
  unfold madeFor
  rw [List.countP_append, List.countP_singleton]

theorem owedMore (key : Key) (told : List Told) (x : Told) : owed key (told ++ [x]) ≤
    if x.books key then 0 else owed key told + if x.makes key then 1 else 0 := by
  unfold owed
  rw [List.any_append, madeMore]
  cases told.any (Told.books key) <;> cases books : x.books key <;> simp [books]

theorem Ahead.more (h : Ahead key n told) (quiet : x.books key = false) : Ahead key n (told ++ [x]) where
  unbooked := by simp [h.unbooked, quiet]
  made := by
    rw [madeMore]
    exact Nat.le_add_right_of_le h.made

theorem Ahead.one (h : Ahead key n told) (quiet : x.books key = false) (makes : x.makes key = true) :
    Ahead key (n + 1) (told ++ [x]) where
  unbooked := by simp [h.unbooked, quiet]
  made := by
    rw [madeMore, makes]
    exact Nat.add_le_add_right h.made 1

theorem Ahead.owes (h : Ahead key n told) : n ≤ owed key told := by
  unfold owed
  rw [h.unbooked]
  exact h.made

theorem onTasksBook {c : Call} (only : c.OnTasks) (told : List Told) :
    MayBook told c ∧ ∀ reply, (Told.mk c reply).books key = false := by
  cases c with
  | get | list => exact ⟨trivial, fun _ => rfl⟩
  | update k o =>
    cases k with
    | task => exact ⟨trivial, fun _ => rfl⟩
    | agent | template | trigger | secret => exact only.elim
  | create | updateStatus | delete | createWorkload | workloadStatus | deleteWorkload => exact only.elim

theorem onTasksAhead {α : Type} {p : Procedure α} (only : Only Call.OnTasks p) (h : Ahead key n told) :
    Obeys MayBook (fun told _ => Ahead key n told) told p := by
  induction p generalizing told with
  | done a => exact h
  | call c next ih =>
    obtain ⟨may, quiet⟩ := onTasksBook only.1 told
    exact ⟨may, fun reply => ih reply (obeysAnyTold (only.2 reply)) (h.more (quiet reply))⟩

end

namespace Webhook
variable {told : List Told} {n : Nat}

theorem newTaskMakes (trigger : WebhookTrigger) (d : Draft) (name : String) (stored : Task) :
    (Told.mk (.create .task (newTask trigger d name)) (.ok stored)).makes trigger.key = true := by
  obtain ⟨ns, label, -⟩ := scopeIff.mp (newTaskScoped trigger d name)
  exact scopeIff.mpr ⟨ns, label, fun _ none => nomatch none⟩

theorem makeTaskBooks (trigger : WebhookTrigger) (name : String) (d : Draft) (h : Ahead trigger.key n told) :
    Obeys MayBook (fun told one => Ahead trigger.key (match one with
      | .ok (some _) => n + 1
      | _ => n) told) told (makeTask trigger name d) := by
  refine Obeys.bind ((onTasksAhead (enforceOnTasks _ _ _ _) h).weaken fun told allowed h => ?_)
  cases allowed with
  | error e => exact h
  | ok allowed =>
    cases allowed with
    | false => exact h
    | true =>
      refine .ask trivial fun made => ?_
      cases made with
      | error e => exact h.more rfl
      | ok stored => exact h.one rfl (newTaskMakes trigger d name stored)

theorem makeTasksBooks (trigger : WebhookTrigger) (names : Nat → String) (made : List Made)
    (drafts : List Draft) (h : Ahead trigger.key made.length told) :
    Obeys MayBook (fun told result => Ahead trigger.key result.1.length told) told
      (makeTasks trigger names made drafts) := by
  induction drafts generalizing told made with
  | nil => exact h
  | cons d rest ih =>
    refine Obeys.bind ((makeTaskBooks trigger (names made.length) d h).weaken fun told one h => ?_)
    cases one with
    | error e => exact h
    | ok one =>
      cases one with
      | none => exact ih made h
      | some m => exact ih (made ++ [m]) (by rwa [List.length_append])

theorem recordBooks (now : Instant) (trigger : Key) (made : List Made) (limit : Nat)
    (h : Ahead trigger made.length told) :
    Obeys MayBook (fun _ _ => True) told (record now trigger made limit) := by
  induction limit generalizing told with
  | zero => trivial
  | succ limit ih =>
    refine .ask trivial fun found => ?_
    have h := h.more (x := ⟨.get .trigger trigger, found⟩) rfl
    cases found with
    | error e =>
      dsimp only
      split
      · exact ih h
      · trivial
    | ok found =>
      cases found with
      | none => trivial
      | some stored =>
        refine .ask ⟨trigger, stored, by simp, _, rfl, made.length, h.owes,
          countAllTotal now made stored.status⟩ fun written => ?_
        cases written with
        | ok _ => trivial
        | error e =>
          dsimp only
          split
          · exact ih (h.more rfl)
          · trivial

theorem carryOutBooks (p : Plan) (names : Nat → String) (now : Instant) :
    Obeys MayBook (fun _ _ => True) [] (p.carryOut names now) := by
  unfold Plan.carryOut
  split
  · trivial
  · refine Obeys.bind ((makeTasksBooks p.trigger names [] p.drafts ⟨rfl, Nat.zero_le _⟩).weaken
      fun told result h => ?_)
    obtain ⟨made, failure⟩ := result
    dsimp only
    split
    · refine Obeys.bind ((recordBooks now p.trigger.key made conflictAttempts h).weaken fun _ _ _ => ?_)
      cases failure <;> trivial
    · cases failure <;> trivial

theorem handleBooks (registry : Registry) (sources : SecretSources) (names : Nat → String)
    (now : Instant) (engine : FilterEngine) (request : WebhookRequest) :
    Obeys MayBook (fun _ _ => True) [] (handle registry sources names now engine request).1 := by
  unfold handle
  split
  · trivial
  · exact carryOutBooks _ _ _

end Webhook

namespace TriggerController
variable {told : List Told}

theorem syncStatusBooks (base : String) (key : Key) (t : WebhookTrigger)
    (read : Told.mk (.get .trigger key) (.ok (some t)) ∈ told) :
    Obeys MayBook (fun _ _ => True) told (syncStatus base t) := by
  refine .ask trivial fun listed => ?_
  cases listed with
  | error e => trivial
  | ok tasks =>
    dsimp only
    split
    · trivial
    · refine .ask ⟨key, t, List.mem_append_left _ read, _, rfl, 0, Nat.zero_le _, ?_⟩ fun written => ?_
      · exact (UInt64.add_zero t.status.totalTriggered).symm
      · cases written <;> trivial

theorem syncBooks (base : String) (registry : Registry) (key : Key) :
    Obeys MayBook (fun _ _ => True) told (sync base registry key) := by
  refine .ask trivial fun found => ?_
  cases found with
  | error e => trivial
  | ok found =>
    cases found with
    | none => trivial
    | some t =>
      dsimp only
      split
      · trivial
      · exact Obeys.bind ((syncStatusBooks base key t (by simp)).weaken fun _ _ _ => trivial)

theorem syncAllBooks (base : String) (registry : Registry) (keys : List Key) :
    Obeys MayBook (fun _ _ => True) told (syncAll base registry keys) := by
  induction keys generalizing told registry with
  | nil => trivial
  | cons key rest ih => exact Obeys.bind ((syncBooks base registry key).weaken fun _ registry _ => ih registry)

theorem resyncBooks (base : String) (registry : Registry) :
    Obeys MayBook (fun _ _ => True) told (resync base registry) := by
  refine .ask trivial fun listed => ?_
  cases listed with
  | error e => trivial
  | ok stored => exact syncAllBooks _ _ _

end TriggerController
end Turnstile
