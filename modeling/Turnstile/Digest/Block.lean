/-! What the SHA functions share: big-endian words, padding and blocks. -/
namespace Turnstile.Digest

abbrev Bytes := List UInt8

def bigEndian : Nat → Nat → Bytes
  | 0, _ => []
  | count + 1, n => bigEndian count (n / 256) ++ [(n % 256).toUInt8]

def ofBigEndian (bytes : Bytes) : Nat := bytes.foldl (fun n b => n * 256 + b.toNat) 0

def pad (block lengthBytes : Nat) (message : Bytes) : Bytes :=
  let used := (message.length + 1 + lengthBytes) % block
  message ++ 0x80 :: List.replicate ((block - used) % block) 0
    ++ bigEndian lengthBytes (8 * message.length)

def chunksOf (size : Nat) : Nat → List α → List (List α)
  | 0, _ => []
  | fuel + 1, xs => if xs.isEmpty then [] else xs.take size :: chunksOf size fuel (xs.drop size)

def chunks (size : Nat) (xs : List α) : List (List α) := chunksOf size (xs.length / size + 1) xs

structure Hash where
  block : Nat
  digest : Bytes → Bytes

end Turnstile.Digest
