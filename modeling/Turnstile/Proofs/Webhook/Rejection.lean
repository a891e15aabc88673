import Turnstile.Service
import Turnstile.Proofs.Procedure
/-! Webhook requests that are turned down. Whatever was matched, rendered or looked up before,
such a request has asked the store for nothing but reads; and one that does not prove who sent
it is answered alike, whatever the cause. -/
namespace Turnstile
open Procedure

def Looked (told : List Told) : Prop := ∀ x ∈ told, x.call.Reads

theorem Looked.more {told : List Told} (looked : Looked told) {c : Call} (reads : c.Reads)
    (reply : c.Reply) : Looked (told ++ [⟨c, reply⟩]) := by
  intro x inside
  rcases List.mem_append.mp inside with before | last
  · exact looked x before
  · rw [List.mem_singleton.mp last]
    exact reads

namespace Procedure
variable {α : Type} {told : List Told}

theorem Obeys.runLooked {p : Procedure α} {turns : α → Prop} {now : Instant} {b : Backend}
    (looks : Ends (fun told a => turns a → Looked told) told p) (turned : turns (p.run now b).1) :
    Looked told ∧ (p.run now b).2 = b := by
  induction p generalizing told b with
  | done a => exact ⟨looks turned, rfl⟩
  | call c next ih =>
    obtain ⟨looked, same⟩ := ih _ (looks.2 (b.perform now c).1) turned
    -- the call itself stands last among those that were looks
    have reads : c.Reads := looked _ (List.mem_append_right told List.mem_cons_self)
    have left : (b.perform now c).2 = b := Backend.readLeaves reads now b
    exact ⟨fun x inside => looked x (List.mem_append_left _ inside), same.trans left⟩

end Procedure

namespace Webhook
variable {told : List Told}

def TurnedDown : Except WebhookError WebhookOutcome → Prop
  | .ok .filtered | .ok .skipped => True
  | .error (.badPath _) | .error (.notFound _) | .error (.unauthorized _) => True
  | .error .invalidJson | .error (.filter _) | .error (.render _) => True
  | .ok (.created _) | .error (.store _) => False

instance (answer : Except WebhookError WebhookOutcome) : Decidable (TurnedDown answer) :=
  match answer with
  | .ok .filtered | .ok .skipped => .isTrue trivial
  | .error (.badPath _) | .error (.notFound _) | .error (.unauthorized _) => .isTrue trivial
  | .error .invalidJson | .error (.filter _) | .error (.render _) => .isTrue trivial
  | .ok (.created _) | .error (.store _) => .isFalse id

theorem activeLooks (ns trigger : String) (rule : Option String) (looked : Looked told) :
    Ends (fun told _ => Looked told) told (activeTasks ns trigger rule) := by
  refine ⟨trivial, fun listed => ?_⟩
  have after := looked.more (c := .list .task (scope ns trigger rule)) trivial listed
  cases listed <;> exact after

theorem refusalLooks (policy : ConcurrencyPolicy) (ns trigger : String) (rule : Option String)
    (looked : Looked told) :
    Ends (fun told allowed => allowed = .ok false → Looked told) told
      (enforce policy ns trigger rule) := by
  cases policy with
  | allow => exact fun refused => nomatch refused
  | forbid =>
    refine Obeys.bind ((activeLooks ns trigger rule looked).weaken fun told active looked => ?_)
    cases active <;> exact fun _ => looked
  | replace =>
    refine Obeys.bind ((activeLooks ns trigger rule looked).weaken fun told active looked => ?_)
    cases active with
    | error e => exact fun _ => looked
    | ok active =>
      refine Obeys.bind ((endsTrue (stopAll active)).weaken fun _ _ _ => ?_)
      exact fun refused => nomatch refused

theorem skipLooks (trigger : WebhookTrigger) (name : String) (d : Draft) (looked : Looked told) :
    Ends (fun told one => one = .ok none → Looked told) told (makeTask trigger name d) := by
  refine Obeys.bind ((refusalLooks _ _ _ _ looked).weaken fun told allowed refused => ?_)
  cases allowed with
  | error e => exact fun skipped => nomatch skipped
  | ok allowed =>
    cases allowed with
    | false => exact fun _ => refused rfl
    | true =>
      refine ⟨trivial, fun made => ?_⟩
      cases made <;> exact fun skipped => nomatch skipped

theorem noneLooks (trigger : WebhookTrigger) (names : Nat → String) (made : List Made)
    (drafts : List Draft) (looked : made = [] → Looked told) :
    Ends (fun told result => result.1 = [] → result.2 = none → Looked told) told
      (makeTasks trigger names made drafts) := by
  induction drafts generalizing told made with
  | nil => exact fun empty _ => looked empty
  | cons d rest ih =>
    have one : Ends (fun told one => one = .ok none → made = [] → Looked told) told
        (makeTask trigger (names made.length) d) := by
      by_cases empty : made = []
      · exact (skipLooks trigger _ d (looked empty)).weaken fun _ _ skips skipped _ => skips skipped
      · exact (endsTrue _).weaken fun _ _ _ _ none => absurd none empty
    refine Obeys.bind (one.weaken fun told one skips => ?_)
    cases one with
    | error e => exact fun _ failed => nomatch failed
    | ok one =>
      cases one with
      | none => exact ih made (skips rfl)
      | some m => exact ih _ fun empty => absurd empty (by simp)

theorem carryOutLooks (p : Plan) (names : Nat → String) (now : Instant) :
    Ends (fun told d => TurnedDown d.outcome → Looked told) [] (p.carryOut names now) := by
  have nothing : Looked [] := by simp [Looked]
  unfold Plan.carryOut
  split
  · exact fun _ => nothing
  · refine Obeys.bind ((noneLooks p.trigger names [] p.drafts fun _ => nothing).weaken
      fun told result looks => ?_)
    obtain ⟨made, failure⟩ := result
    cases made with
    | nil =>
      cases failure with
      | none => exact fun _ => looks rfl rfl
      | some e => exact fun turned => turned.elim
    | cons m rest =>
      -- what is recorded does not matter: these requests made a task
      refine Obeys.bind ((endsTrue (record now p.trigger.key (m :: rest) conflictAttempts)).weaken
        fun told _ _ => ?_)
      cases failure <;> exact fun turned => turned.elim

theorem handleLooks (registry : Registry) (sources : SecretSources) (names : Nat → String)
    (now : Instant) (engine : FilterEngine) (request : WebhookRequest) :
    Ends (fun told d => TurnedDown d.outcome → Looked told) []
      (handle registry sources names now engine request).1 := by
  unfold handle
  split
  · exact fun _ x inside => nomatch inside
  · exact carryOutLooks _ _ _

/-- The request is for a trigger that asks for credentials, and its own do not do. -/
def Unproven (registry : Registry) (sources : SecretSources) (request : WebhookRequest) : Prop :=
  ∃ key trigger auth, keyOfPath? request.path = some key ∧ registry.get? key = some trigger ∧
    trigger.spec.auth = some auth ∧
    (Auth.authenticate sources trigger.metadata.ns auth request.headers request.body).isOk = false

theorem unprovenRefused {registry : Registry} {sources : SecretSources} {request : WebhookRequest}
    (unproven : Unproven registry sources request) (names : Nat → String) (now : Instant)
    (engine : FilterEngine) : ∃ cause, handle registry sources names now engine request =
      (pure ⟨0, .error (.unauthorized cause)⟩, engine) := by
  obtain ⟨key, trigger, auth, path, served, asks, fails⟩ := unproven
  cases tried : Auth.authenticate sources trigger.metadata.ns auth request.headers request.body with
  | ok => rw [tried] at fails; cases fails
  | error cause =>
    have refused : receive registry sources request = .error (.unauthorized cause) := by
      simp only [receive, path, served, identify, asks, tried]
    exact ⟨cause, by simp only [handle, judge, refused]⟩

end Webhook

namespace Platform
open Webhook

theorem unprovenAnswered {p : Platform} {q : Http.Request} {request : WebhookRequest}
    (routed : Http.route p.config.server.maxBodyBytes.toNat q = .webhook request)
    (unproven : Unproven p.registry p.secrets request) (engine : FilterEngine) :
    (p.respond engine q).1 = .ofError (.unauthorized .mismatch) := by
  obtain ⟨cause, refused⟩ := unprovenRefused unproven (fun i => p.names (p.named + i)) p.now engine
  have delivered : (p.deliver false engine request).1 = ⟨0, .error (.unauthorized cause)⟩ := by
    simp only [deliver, refused]
    rfl
  simp only [respond, routed, Http.Response.ofDelivery, delivered]
  -- the cause is in no part of the answer
  rfl

/-- A request that is turned down leaves every object as it was, and requests that do not
prove who sent them are answered alike, wherever they fail and whatever else they hold. -/
theorem turnedDownSilent :
    (∀ registry sources names now engine request b,
      TurnedDown ((handle registry sources names now engine request).1.run now b).1.outcome →
      ((handle registry sources names now engine request).1.run now b).2 = b) ∧
    (∀ (p other : Platform) q q' request request' engine engine',
      Http.route p.config.server.maxBodyBytes.toNat q = .webhook request →
      Http.route other.config.server.maxBodyBytes.toNat q' = .webhook request' →
      Unproven p.registry p.secrets request → Unproven other.registry other.secrets request' →
      (p.respond engine q).1 = (other.respond engine' q').1) := by
  refine ⟨fun registry sources names now engine request b turned => ?_,
    fun p other q q' request request' engine engine' routed routed' unproven unproven' => ?_⟩
  · exact ((handleLooks registry sources names now engine request).runLooked turned).2
  · rw [unprovenAnswered routed unproven, unprovenAnswered routed' unproven']

def gate (auth : Option WebhookAuth) : WebhookTrigger :=
  ⟨Metadata.ofKey ⟨"ns", "hook"⟩,
    ⟨auth, "", .forbid, some ⟨"", none, [], [], none, .empty⟩, []⟩, .fresh⟩

def gated (auth : Option WebhookAuth) : Platform :=
  { Platform.fresh .standard none none (fun _ => "task") default with
    registry := ⟨SortedMap.empty.insert ⟨"ns", "hook"⟩ (gate auth)⟩ }

def occupied : Backend :=
  (Backend.empty.perform default (.create .task { Task.bare ⟨"ns", "task"⟩ "agent" with
    metadata := { Metadata.ofKey ⟨"ns", "task"⟩ with
      labels := SortedMap.empty.insert triggerLabel "hook" } })).2

def knock (headers : List Http.Header) (body : String) : Http.Request :=
  ⟨"POST", ⟨"/webhooks/ns/hook"⟩, headers, Auth.bytesOf body⟩

theorem gateKeepsSilent :
    ((handle (gated none).registry ⟨none, .empty⟩ (fun _ => "task") default .empty
      ⟨"ns/hook", .empty, Auth.bytesOf "[]"⟩).1.run default occupied).2 = occupied ∧
    ((gated (some (.bearer ⟨"secret", "token"⟩))).respond .empty (knock [] "[]")).1 =
      ((gated (some (.bearer ⟨"secret", "token"⟩))).respond .empty
        (knock [⟨"authorization", Auth.bytesOf "Bearer x"⟩] "no json")).1 := by
  refine ⟨turnedDownSilent.1 _ _ _ _ _ _ _ (by decide +kernel),
    turnedDownSilent.2 _ _ _ _ ⟨"ns/hook", .empty, Auth.bytesOf "[]"⟩
      ⟨"ns/hook", SortedMap.empty.insert "authorization" "Bearer x", Auth.bytesOf "no json"⟩ _ _
      (by decide +kernel) (by decide +kernel) ?_ ?_⟩
  · exact ⟨⟨"ns", "hook"⟩, gate (some (.bearer ⟨"secret", "token"⟩)), .bearer ⟨"secret", "token"⟩,
      by decide +kernel, by decide +kernel, rfl, by decide +kernel⟩
  · exact ⟨⟨"ns", "hook"⟩, gate (some (.bearer ⟨"secret", "token"⟩)), .bearer ⟨"secret", "token"⟩,
      by decide +kernel, by decide +kernel, rfl, by decide +kernel⟩

end Platform
end Turnstile
