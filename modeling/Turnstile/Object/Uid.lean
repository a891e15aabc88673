import Turnstile.Json.Reader
import Turnstile.Json.Writer
/-! Identities of 128 bits. They are written in lower case with hyphens; reading
also takes them without hyphens, in braces or as a URN. -/
namespace Turnstile

structure Uid where
  bits : BitVec 128
  deriving DecidableEq, Repr

namespace Uid

def nil : Uid := ⟨0⟩

def ofNat (n : Nat) : Uid := ⟨BitVec.ofNat 128 n⟩

def hexDigits : Nat → Nat → List Char
  | 0, _ => []
  | count + 1, n => hexDigits count (n / 16) ++ [Json.hexDigit (n % 16)]

def toText (u : Uid) : String :=
  let d := hexDigits 32 u.bits.toNat
  String.ofList (d.take 8 ++ '-' :: (d.drop 8).take 4 ++ '-' :: (d.drop 12).take 4 ++ '-' ::
    (d.drop 16).take 4 ++ '-' :: d.drop 20)

def ofHex? (s : List Char) : Option Uid :=
  (s.foldl (fun acc c => acc.bind fun n => (Json.hexValue? c).map (n * 16 + ·)) (some 0)).map ofNat

def ofHyphenated? (s : List Char) : Option Uid :=
  if s.length = 36 && (s.drop 8).head? = some '-' && (s.drop 13).head? = some '-'
      && (s.drop 18).head? = some '-' && (s.drop 23).head? = some '-' then
    ofHex? (s.take 8 ++ (s.drop 9).take 4 ++ (s.drop 14).take 4 ++ (s.drop 19).take 4 ++ s.drop 24)
  else none

def ofText? (text : String) : Option Uid :=
  let s := text.toList
  if s.length = 32 then ofHex? s
  else if s.length = 36 then ofHyphenated? s
  else if s.length = 38 && s.head? = some '\x7b' && s.getLast? = some '\x7d' then
    ofHyphenated? ((s.drop 1).take 36)
  else if s.length = 45 && s.take 9 = "urn:uuid:".toList then ofHyphenated? (s.drop 9)
  else none

end Uid
end Turnstile
