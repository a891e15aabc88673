import Turnstile.Task.Basic
import Turnstile.Text.Search
/-! The configuration of the service. Every part has a default. -/
namespace Turnstile

structure ServerConfig where
  host : String
  port : UInt16
  maxBodyBytes : UInt64
  publicBaseUrl : Option String
  deriving DecidableEq, Repr

structure ControllerConfig where
  workers : UInt64
  resyncIntervalSecs : UInt64
  queuedRequeueSecs : UInt64
  blockedRequeueSecs : UInt64
  runningPollSecs : UInt64
  deriving DecidableEq, Repr

structure Config where
  server : ServerConfig
  controller : ControllerConfig
  retry : RetryPolicy
  deriving DecidableEq, Repr

namespace ServerConfig

def standard : ServerConfig := ⟨"0.0.0.0", 8080, 1048576, none⟩

def baseUrl (s : ServerConfig) : String :=
  match s.publicBaseUrl with
  | some url => Text.dropEnd '/' url
  | none => "http://" ++ s.host ++ ":" ++ toString s.port.toNat

end ServerConfig

def ControllerConfig.standard : ControllerConfig := ⟨4, 300, 10, 30, 15⟩

namespace Config

def standard : Config := ⟨.standard, .standard, .standard⟩

def resyncInterval (c : Config) : Duration :=
  .ofSeconds (max c.controller.resyncIntervalSecs.toNat 5)

end Config

structure ReconcileTiming where
  queued : Duration
  blocked : Duration
  running : Duration
  deriving DecidableEq, Repr

namespace Wire

instance : Wire ServerConfig where
  toJson s := .object
    (Json.member "host" s.host ++ Json.member "max_body_bytes" s.maxBodyBytes
      ++ Json.member "port" s.port ++ Json.memberIfSome "public_base_url" s.publicBaseUrl)
  ofJson? j := do
    let r ← j.record? 4
    some {
      host := ← r.defaulted 0 "host" ServerConfig.standard.host
      port := ← r.defaulted 1 "port" ServerConfig.standard.port
      maxBodyBytes := ← r.defaulted 2 "max_body_bytes" ServerConfig.standard.maxBodyBytes
      publicBaseUrl := ← r.optional 3 "public_base_url" }

instance : Wire ControllerConfig where
  toJson c := .object
    (Json.member "blocked_requeue_secs" c.blockedRequeueSecs
      ++ Json.member "queued_requeue_secs" c.queuedRequeueSecs
      ++ Json.member "resync_interval_secs" c.resyncIntervalSecs
      ++ Json.member "running_poll_secs" c.runningPollSecs
      ++ Json.member "workers" c.workers)
  ofJson? j := do
    let r ← j.record? 5
    some {
      workers := ← r.defaulted 0 "workers" ControllerConfig.standard.workers
      resyncIntervalSecs := ← r.defaulted 1 "resync_interval_secs" ControllerConfig.standard.resyncIntervalSecs
      queuedRequeueSecs := ← r.defaulted 2 "queued_requeue_secs" ControllerConfig.standard.queuedRequeueSecs
      blockedRequeueSecs := ← r.defaulted 3 "blocked_requeue_secs" ControllerConfig.standard.blockedRequeueSecs
      runningPollSecs := ← r.defaulted 4 "running_poll_secs" ControllerConfig.standard.runningPollSecs }

instance : Wire Config where
  toJson c := .object
    (Json.member "controller" c.controller ++ Json.member "retry" c.retry
      ++ Json.member "server" c.server)
  ofJson? j := do
    let r ← j.record? 3
    some {
      server := ← r.defaulted 0 "server" ServerConfig.standard
      controller := ← r.defaulted 1 "controller" ControllerConfig.standard
      retry := ← r.defaulted 2 "retry" RetryPolicy.standard }

end Wire
end Turnstile
