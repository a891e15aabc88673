import Turnstile.Digest.Block
/-! Keyed hashing (HMAC) and hexadecimal text of bytes. -/
namespace Turnstile.Digest

def blockKey (h : Hash) (key : Bytes) : Bytes :=
  let key := if h.block < key.length then h.digest key else key
  key ++ List.replicate (h.block - key.length) 0

def hmac (h : Hash) (key message : Bytes) : Bytes :=
  let key := blockKey h key
  h.digest (key.map (· ^^^ 0x5c) ++ h.digest (key.map (· ^^^ 0x36) ++ message))

end Turnstile.Digest
