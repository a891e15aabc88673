import Turnstile.Proofs.Interleaved
import Turnstile.Proofs.Webhook.Books
/-! Counting the tasks of a request while others write. The count lands on the status that was
read, which is then the one that is stored, or the status is read again. -/
namespace Turnstile
open Procedure Turn

namespace Webhook
variable {now : Instant} {made rest : List Made} {m : Made} {s u : TriggerStatus}

structure Entered (made : List Made) (s u : TriggerStatus) : Prop where
  tasks : ∀ task, task ∈ u.activeTasks ↔ task ∈ s.activeTasks ∨ ∃ m ∈ made, m.task.name = task
  ruleTotals : ∀ rule, (u.ruleStatus rule).totalTriggered =
    (s.ruleStatus rule).totalTriggered + UInt64.ofNat (made.countP fun m => m.rule == some rule)
  resources : ∀ rule task, task ∈ (u.ruleStatus rule).activeResources ↔
    task ∈ (s.ruleStatus rule).activeResources ∨ ∃ m ∈ made, m.rule = some rule ∧ m.task.name = task

theorem enteredNone (s : TriggerStatus) : Entered [] s s where
  tasks task := by simp
  ruleTotals rule := by simp
  resources rule task := by simp

theorem Entered.cons (entered : Entered rest (countMade now s m) u) : Entered (m :: rest) s u where
  tasks task := by
    rw [entered.tasks, countMadeTasks, memAppend, List.exists_mem_cons_iff, or_assoc, eq_comm]
  ruleTotals rule := by
    rw [entered.ruleTotals, countMadeRule, List.countP_cons]
    by_cases own : m.rule = some rule
    · simp only [own, counted, beq_self_eq_true, if_true, UInt64.ofNat_add]
      exact (UInt64.add_assoc _ _ _).trans (congrArg _ (UInt64.add_comm _ _))
    · simp [own]
  resources rule task := by
    rw [entered.resources, countMadeRule, List.exists_mem_cons_iff]
    by_cases own : m.rule = some rule
    · simp only [own, if_true, counted, memAppend, true_and, or_assoc, eq_comm]
    · simp only [own, if_false, false_and, false_or]

theorem foldEntered (now : Instant) (made : List Made) (s : TriggerStatus) :
    Entered made s (made.foldl (countMade now) s) := by
  induction made generalizing s with
  | nil => exact enteredNone s
  | cons m rest ih => exact (ih (countMade now s m)).cons

structure Counted (now : Instant) (made : List Made) (s u : TriggerStatus) : Prop where
  total : u.totalTriggered = s.totalTriggered + UInt64.ofNat made.length
  latest : u.lastTriggeredTime = some now
  url : u.webhookUrl = s.webhookUrl
  entered : Entered made s u

theorem foldLatest (now : Instant) (made : List Made) (s : TriggerStatus) :
    (made.foldl (countMade now) s).lastTriggeredTime = s.lastTriggeredTime ∧
      (made.foldl (countMade now) s).webhookUrl = s.webhookUrl := by
  induction made generalizing s with
  | nil => exact ⟨rfl, rfl⟩
  | cons m rest ih =>
    have same : (countMade now s m).lastTriggeredTime = s.lastTriggeredTime ∧
        (countMade now s m).webhookUrl = s.webhookUrl := by
      unfold countMade
      cases m.rule <;> exact ⟨rfl, rfl⟩
    exact ⟨(ih _).1.trans same.1, (ih _).2.trans same.2⟩

theorem countAllCounted (now : Instant) (made : List Made) (s : TriggerStatus) :
    Counted now made s (countAll now made s) where
  total := countAllTotal now made s
  latest := (foldLatest now made _).1
  url := (foldLatest now made _).2
  entered :=
    have entered := foldEntered now made { s with
      lastTriggeredTime := some now
      totalTriggered := s.totalTriggered + UInt64.ofNat made.length }
    ⟨entered.tasks, entered.ruleTotals, entered.resources⟩

/-- A trigger's status counts some tasks more, and the rest of the trigger stays. -/
structure Counts (key : Key) (now : Instant) (made : List Made) (x : Turn) (t u : WebhookTrigger) : Prop where
  puts : x.Puts .trigger t u
  key : t.key = key
  counted : Counted now made t.status u.status
  spec : u.spec = t.spec
  metadata : u.metadata = { t.metadata with resourceVersion := u.metadata.resourceVersion }

variable {key : Key} {b last : Backend} {log : List Turn} {done : Unit} {limit : Nat}

theorem countsWritten {x : Turn} {t : WebhookTrigger} {v : UInt64} (own : t.key = key)
    (puts : x.Puts .trigger t (Collection.laterWrite v 0 t
      (Kind.trigger.takeStatus t { t with status := countAll now made t.status }))) :
    Counts key now made x t (Collection.laterWrite v 0 t
      (Kind.trigger.takeStatus t { t with status := countAll now made t.status })) where
  puts := puts
  key := own
  counted := countAllCounted now made t.status
  spec := rfl
  metadata := by simp [Collection.laterWrite, Kind.takeStatus, Kind.withMetadata, Kind.metadata]

theorem recordOnce (copies : b.store.Copies) (amid : Amid (record now key made limit) b log done last) :
    ∃ counted, Once (fun x => ∃ t u, Counts key now made x t u) limit counted log := by
  induction limit generalizing b log with
  | zero =>
    cases amid
    exact ⟨False, .nothing id⟩
  | succ limit ih =>
    unfold record at amid
    obtain ⟨got, found, middle, rest, rfl, idle, reads, copies, copied, amid⟩ := amid.read copies
    cases found with
    | error e =>
      dsimp only at amid
      split at amid
      · obtain ⟨counted, once⟩ := ih copies amid
        exact ⟨counted, once.refused idle⟩
      · cases amid
        exact ⟨False, .read (.nothing id) idle reads⟩
    | ok found =>
      cases found with
      | none =>
        cases amid
        exact ⟨False, .read (.nothing id) idle reads⟩
      | some t =>
        obtain ⟨own, copied⟩ := copied t rfl
        obtain ⟨before, written, after, rest, rfl, between, answered, amid⟩ := amid.next
        have copies := answered.copies (between.copies copies)
        rcases answered.restatused (between.copied copied) rfl rfl with ⟨⟨e, rfl⟩, quiet⟩ | ⟨v, rfl, puts⟩
        · dsimp only at amid
          split at amid
          · obtain ⟨counted, once⟩ := ih copies amid
            exact ⟨counted, .read (once.refused quiet) idle reads⟩
          · cases amid
            exact ⟨False, .read (.refused (.nothing id) quiet) idle reads⟩
        · cases amid
          exact ⟨True, .read (.landed ⟨t, _, countsWritten own puts⟩ trivial) idle reads⟩

end Webhook
end Turnstile
