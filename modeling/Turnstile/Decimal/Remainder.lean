import Turnstile.Decimal.Shortest
/-! The exact remainder of two doubles. -/
namespace Turnstile.Decimal

/-- What is left of `a` after whole multiples of `b` toward zero; it has the
sign of `a`. Both are brought to the smaller exponent, where the remainder is
one of natural numbers and needs no rounding. -/
def remainder (a b : Float) : Float :=
  if a.isNaN || b.isNaN || a.isInf || b == 0.0 then 0.0 / 0.0
  else if b.isInf then a
  else
    let x := Binary.ofBits (a.abs).toBits
    let y := Binary.ofBits (b.abs).toBits
    let e := min x.exponent y.exponent
    let m := (x.significand * Nat.pow 2 (x.exponent - e).toNat) % (y.significand * Nat.pow 2 (y.exponent - e).toNat)
    let r := (m.toUInt64.toFloat).scaleB e
    if a.toBits.toNat < 0x8000000000000000 then r else -r

end Turnstile.Decimal
