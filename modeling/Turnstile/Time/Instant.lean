/-! Instants and durations, to the nanosecond. -/
namespace Turnstile

structure Duration where
  nanoseconds : Nat
  deriving DecidableEq, Repr, Ord

namespace Duration

def zero : Duration := ⟨0⟩
def ofSeconds (n : Nat) : Duration := ⟨n * 1000000000⟩
def ofMillis (n : Nat) : Duration := ⟨n * 1000000⟩
def seconds (d : Duration) : Nat := d.nanoseconds / 1000000000
def subsecond (d : Duration) : Nat := d.nanoseconds % 1000000000
def max (a b : Duration) : Duration := ⟨Nat.max a.nanoseconds b.nanoseconds⟩
def min (a b : Duration) : Duration := ⟨Nat.min a.nanoseconds b.nanoseconds⟩

def longest : Duration := ⟨18446744073709551615999999999⟩

def times (d : Duration) (n : UInt32) : Duration := longest.min ⟨d.nanoseconds * n.toNat⟩

instance : LE Duration := ⟨fun a b => a.nanoseconds ≤ b.nanoseconds⟩
instance : LT Duration := ⟨fun a b => a.nanoseconds < b.nanoseconds⟩
instance (a b : Duration) : Decidable (a ≤ b) := Nat.decLe _ _
instance (a b : Duration) : Decidable (a < b) := Nat.decLt _ _

end Duration

/-- A second since the start of 1970 and the nanoseconds into it. The second
that ends a minute may be a leap second, which lasts twice as long. -/
structure Instant where
  second : Int
  nano : Nat
  inSecond : nano < 1000000000 ∨ (nano < 2000000000 ∧ second % 60 = 59)
  deriving DecidableEq, Repr

namespace Instant

def compareOrder (a b : Instant) : Ordering := (compare a.second b.second).then (compare a.nano b.nano)

instance : Ord Instant := ⟨compareOrder⟩
instance : LT Instant := ⟨fun a b => a.second < b.second ∨ (a.second = b.second ∧ a.nano < b.nano)⟩
instance : LE Instant := ⟨fun a b => a.second < b.second ∨ (a.second = b.second ∧ a.nano ≤ b.nano)⟩
instance (a b : Instant) : Decidable (a < b) :=
  inferInstanceAs (Decidable (a.second < b.second ∨ (a.second = b.second ∧ a.nano < b.nano)))
instance (a b : Instant) : Decidable (a ≤ b) :=
  inferInstanceAs (Decidable (a.second < b.second ∨ (a.second = b.second ∧ a.nano ≤ b.nano)))

def ofNanoseconds (n : Int) : Instant :=
  ⟨n / 1000000000, (n % 1000000000).toNat, .inl (by omega)⟩

instance : Inhabited Instant := ⟨ofNanoseconds 0⟩

def last : Instant := ⟨8210266876799, 999999999, .inl (by decide)⟩

def first : Instant := ⟨-8334601228800, 0, .inl (by decide)⟩

/-- Nanoseconds from the start of 1970 with every leap second left out; within
a leap second time goes on into the second after. -/
def nanoseconds (t : Instant) : Int := t.second * 1000000000 + t.nano

/-- Moves by nanoseconds, forward or back. A move that stays inside a leap
second keeps it; one that leaves it forward passes its end, one that leaves it
backward counts it as a second of its own. -/
def shift (t : Instant) (by_ : Int) : Instant :=
  if t.nano < 1000000000 then ofNanoseconds (t.nanoseconds + by_)
  else
    let whole := by_.tdiv 1000000000
    let part := by_.tmod 1000000000
    if 0 < whole || (0 < part && 2000000000 ≤ (t.nano : Int) + part) then
      ofNanoseconds (t.nanoseconds - 1000000000 + by_)
    else if whole < 0 then ofNanoseconds (t.nanoseconds + by_)
    else
      let nano := ((t.nano : Int) + part).toNat
      if h : nano < 2000000000 ∧ t.second % 60 = 59 then ⟨t.second, nano, .inr h⟩ else t

def after (t : Instant) (d : Duration) : Instant :=
  let next := t.shift d.nanoseconds
  if last < next then last else next

def secondOfDay (t : Instant) : Int := t.second % 86400

/-- Nanoseconds from `b` to `a`. A leap second lies between two times of day if
it belongs to the earlier of them. -/
def since (a b : Instant) : Int :=
  let leap : Int :=
    if b.secondOfDay < a.secondOfDay then if 1000000000 ≤ b.nano then 1 else 0
    else if a.secondOfDay < b.secondOfDay then if 1000000000 ≤ a.nano then -1 else 0
    else 0
  (a.second - b.second + leap) * 1000000000 + ((a.nano : Int) - b.nano)

end Instant
end Turnstile
