import Turnstile.Http.Message
import Turnstile.Webhook.Intake
/-! The routes: webhooks are posted below their prefix, and two paths say that
the service is up. -/
namespace Turnstile.Http

def Response.empty (status : Nat) : Response := ⟨status, none, ""⟩

def Response.notAllowed (methods : String) : Response := ⟨405, some methods, ""⟩

inductive Routed where
  | answered (r : Response)
  | webhook (r : WebhookRequest)
  deriving DecidableEq, Repr

def health (method : String) : Response :=
  if method = "GET" then ⟨200, none, "ok"⟩
  else if method = "HEAD" then .empty 200
  else .notAllowed "GET,HEAD"

def webhook (maxBody : Nat) (r : Request) (rawPath : String) : Routed :=
  if r.method ≠ "POST" then .answered (.notAllowed "POST")
  else
    match decodePart? rawPath with
    | none => .answered ⟨400, none, "Invalid URL: Invalid UTF-8 in \x60path\x60"⟩
    | some path =>
      if maxBody < r.body.length then
        .answered ⟨413, none, "Failed to buffer the request body: length limit exceeded"⟩
      else .webhook ⟨path, firstValues r.headers, r.body⟩

def route (maxBody : Nat) (r : Request) : Routed :=
  match Text.stripStart? (Webhook.pathPrefix ++ "/").toList r.target.path.toList with
  | some (c :: rest) => webhook maxBody r (String.ofList (c :: rest))
  | _ =>
    if r.target.path = "/healthz" || r.target.path = "/readyz" then .answered (health r.method)
    else .answered (.empty 404)

def errorCode : WebhookError → Option (Nat × String)
  | .badPath _ => some (400, "BAD_PATH")
  | .invalidJson => some (400, "INVALID_JSON")
  | .filter .offBoundary => none
  | .filter _ => some (400, "FILTER_ERROR")
  | .render _ => some (400, "TEMPLATE_ERROR")
  | .notFound _ => some (404, "TRIGGER_NOT_FOUND")
  | .unauthorized _ => some (401, "UNAUTHORIZED")
  | .store (.unavailable _) => some (503, "STORE_UNAVAILABLE")
  | .store _ => some (500, "STORE_ERROR")

/-- Who was refused is not told why. -/
def errorMessage : WebhookError → String
  | .unauthorized _ => "webhook authentication failed"
  | e => e.message

def Response.ofError (e : WebhookError) : Response :=
  match errorCode e with
  | none => ⟨500, none, "Service panicked"⟩
  | some (status, code) =>
    ⟨status, none, (Json.object [
      ("error", .object [("code", .string code), ("message", .string (errorMessage e))]),
      ("status", .string "error")]).compact⟩

def Response.ofOutcome : WebhookOutcome → Response
  | .filtered => ⟨200, none, (Json.object [("status", .string "filtered")]).compact⟩
  | .skipped =>
    ⟨200, none, (Json.object
      [("reason", .string "concurrency_policy"), ("status", .string "skipped")]).compact⟩
  | .created tasks =>
    let first := tasks.head?
    ⟨201, none, (Json.object [
      ("namespace", (first.map fun k => Json.string k.ns).getD .null),
      ("status", .string "created"),
      ("task", (first.map fun k => Json.string k.name).getD .null),
      ("tasks", .array (tasks.map fun k => .string k.name))]).compact⟩

def Response.ofDelivery (d : Webhook.Delivery) : Response :=
  match d.outcome with
  | .ok outcome => .ofOutcome outcome
  | .error e => .ofError e

end Turnstile.Http
