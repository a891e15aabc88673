import Turnstile.Task.Basic
/-! Whether and when a failed task runs again. Attempts count from 1. -/
namespace Turnstile

inductive RetryDecision where
  | retryIn (delay : Duration)
  | giveUp
  deriving DecidableEq, Repr

namespace RetryPolicy

def linearDelay : Duration := .ofSeconds 30
def firstDelay : Duration := .ofSeconds 5

def shouldRetry (p : RetryPolicy) (attempt : UInt32) : Bool := attempt < p.maxAttempts

/-- One for every attempt after the first, as far as a word can be doubled. -/
def doublings (attempt : UInt32) : UInt32 := min (if attempt = 0 then 0 else attempt - 1) 31

def factor (attempt : UInt32) : UInt32 := 1 <<< doublings attempt

def uncapped (b : Backoff) (attempt : UInt32) : Duration :=
  match b with
  | .linear => linearDelay
  | .exponential => firstDelay.times (factor attempt)

def delay (p : RetryPolicy) (attempt : UInt32) : Duration :=
  let raw := uncapped p.backoff attempt
  match p.maxDelaySecs with
  | some cap => raw.min (.ofSeconds cap.toNat)
  | none => raw

def decide (p : RetryPolicy) (reason : TerminalReason) (attempt : UInt32) : RetryDecision :=
  if reason.isRetryable && p.shouldRetry attempt then .retryIn (p.delay attempt) else .giveUp

end RetryPolicy
end Turnstile
