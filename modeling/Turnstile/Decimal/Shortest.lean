/-! The fewest decimal digits that read back as a given double. A double is
taken as `significand · 2 ^ exponent`; a decimal reads back iff it lies in the
interval of numbers that round to it, whose ends belong to it iff the
significand is even. All arithmetic is on natural numbers. -/
namespace Turnstile.Decimal

structure Binary where
  significand : Nat
  exponent : Int
  atPowerOfTwo : Bool
  deriving DecidableEq, Repr

structure Number where
  digits : Nat
  scale : Int
  deriving DecidableEq, Repr

def Binary.ofBits (bits : UInt64) : Binary :=
  let n : Nat := bits.toNat
  let field : Nat := n / 0x10000000000000 % 2048
  let fraction : Nat := n % 0x10000000000000
  if field = 0 then ⟨fraction, -1074, false⟩
  else ⟨fraction + 0x10000000000000, (field : Int) - 1075, fraction = 0 && 1 < field⟩

/-- Four times the value and the ends of its interval, over one denominator
for each power of ten. -/
structure Scaled where
  low : Nat
  value : Nat
  high : Nat
  unit : Nat
  closed : Bool

def Binary.scaled (b : Binary) (scale : Int) : Scaled :=
  let up := Nat.pow 2 (b.exponent - 2).toNat * Nat.pow 10 (-scale).toNat
  let unit := Nat.pow 2 (2 - b.exponent).toNat * Nat.pow 10 scale.toNat
  let m := 4 * b.significand
  { low := (m - if b.atPowerOfTwo then 1 else 2) * up
    value := m * up
    high := (m + 2) * up
    unit
    closed := b.significand % 2 = 0 }

def Scaled.holds (s : Scaled) (digits : Nat) : Bool :=
  let d := digits * s.unit
  if s.closed then s.low ≤ d && d ≤ s.high else s.low < d && d < s.high

def Scaled.pick (s : Scaled) : Option Nat :=
  let below := s.value / s.unit
  let above := below + 1
  match s.holds below && 0 < below, s.holds above with
  | false, false => none
  | true, false => some below
  | false, true => some above
  | true, true =>
    let down := s.value - below * s.unit
    let up := above * s.unit - s.value
    if down < up then some below
    else if up < down then some above
    else if below % 2 = 0 then some below else some above

def Binary.leading (b : Binary) : Int :=
  let n := b.significand * Nat.pow 2 b.exponent.toNat * Nat.pow 10 400 / Nat.pow 2 (-b.exponent).toNat
  ((Nat.toDigits 10 n).length : Int) - 401

def trim : Nat → Number → Number
  | 0, d => d
  | fuel + 1, d => if d.digits ≠ 0 && d.digits % 10 = 0 then trim fuel ⟨d.digits / 10, d.scale + 1⟩ else d

def Binary.search (b : Binary) : Nat → Nat → Number
  | 0, n => ⟨(b.scaled (b.leading - n + 1)).pick.getD 0, b.leading - n + 1⟩
  | more + 1, n =>
    let scale := b.leading - n + 1
    match (b.scaled scale).pick with
    | some d => ⟨d, scale⟩
    | none => b.search more (n + 1)

/-- No decimal with fewer digits reads back, and of those with as many none is nearer. -/
def Binary.shortest (b : Binary) : Number :=
  if b.significand = 0 then ⟨0, 0⟩ else trim 20 (b.search 16 1)

end Turnstile.Decimal
