import Turnstile.Digest.Block
/-! SHA-1. -/
namespace Turnstile.Digest.Sha1

structure State where
  a : UInt32
  b : UInt32
  c : UInt32
  d : UInt32
  e : UInt32

def start : State := ⟨0x67452301, 0xefcdab89, 0x98badcfe, 0x10325476, 0xc3d2e1f0⟩

def rotate (x n : UInt32) : UInt32 := (x <<< n) ||| (x >>> (32 - n))

def extend (w : Array UInt32) : Array UInt32 :=
  let t := w.size
  let x := w.getD (t - 3) 0 ^^^ w.getD (t - 8) 0 ^^^ w.getD (t - 14) 0 ^^^ w.getD (t - 16) 0
  w.push (rotate x 1)

def schedule (block : Bytes) : Array UInt32 :=
  let first := ((chunks 4 block).map fun c => (ofBigEndian c).toUInt32).toArray
  (List.range 64).foldl (fun w _ => extend w) first

def round (s : State) (t : Nat) (w : UInt32) : State :=
  let (f, k) : UInt32 × UInt32 :=
    if t < 20 then ((s.b &&& s.c) ||| (~~~s.b &&& s.d), 0x5a827999)
    else if t < 40 then (s.b ^^^ s.c ^^^ s.d, 0x6ed9eba1)
    else if t < 60 then ((s.b &&& s.c) ||| (s.b &&& s.d) ||| (s.c &&& s.d), 0x8f1bbcdc)
    else (s.b ^^^ s.c ^^^ s.d, 0xca62c1d6)
  ⟨rotate s.a 5 + f + s.e + k + w, s.a, rotate s.b 30, s.c, s.d⟩

def compress (s : State) (block : Bytes) : State :=
  let w := schedule block
  let r := (List.range 80).foldl (fun r t => round r t (w.getD t 0)) s
  ⟨s.a + r.a, s.b + r.b, s.c + r.c, s.d + r.d, s.e + r.e⟩

def digest (message : Bytes) : Bytes :=
  let s := (chunks 64 (pad 64 8 message)).foldl compress start
  [s.a, s.b, s.c, s.d, s.e].flatMap fun x => bigEndian 4 x.toNat

def hash : Hash := ⟨64, digest⟩

end Turnstile.Digest.Sha1
