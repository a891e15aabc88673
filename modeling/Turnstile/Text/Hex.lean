import Turnstile.Json.Reader
import Turnstile.Json.Writer
/-! Hexadecimal text of bytes. -/
namespace Turnstile.Text.Hex

def encode (bytes : List UInt8) : String :=
  String.ofList (bytes.flatMap fun b => [Json.hexDigit (b.toNat / 16), Json.hexDigit (b.toNat % 16)])

/-- Two digits of either case; a plus sign may stand for a leading zero. -/
def pair? (a b : Char) : Option UInt8 :=
  if a = '+' then (Json.hexValue? b).map Nat.toUInt8
  else (Json.hexValue? a).bind fun x => (Json.hexValue? b).map fun y => (x * 16 + y).toUInt8

def pairs? : List Char → Option (List UInt8)
  | [] => some []
  | a :: b :: rest => (pair? a b).bind fun x => (pairs? rest).map (x :: ·)
  | [_] => none

def decode? (text : String) : Option (List UInt8) :=
  if text.isEmpty then none else pairs? text.toList

end Turnstile.Text.Hex
