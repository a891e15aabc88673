import Turnstile.Json.Basic
import Turnstile.Decimal.Shortest
/-! JSON text of a value: compact, or indented by two spaces. -/
namespace Turnstile.Json

def hexDigit (n : Nat) : Char :=
  if n < 10 then Char.ofNat (48 + n) else Char.ofNat (87 + n)

def escapeChar (c : Char) : List Char :=
  match c with
  | '"' => ['\\', '"']
  | '\\' => ['\\', '\\']
  | '\x08' => ['\\', 'b']
  | '\x0c' => ['\\', 'f']
  | '\n' => ['\\', 'n']
  | '\r' => ['\\', 'r']
  | '\t' => ['\\', 't']
  | c =>
    if c.toNat < 32 then ['\\', 'u', '0', '0', hexDigit (c.toNat / 16), hexDigit (c.toNat % 16)]
    else [c]

def quoteChars (s : List Char) : List Char :=
  '"' :: s.flatMap escapeChar ++ ['"']

def quote (s : String) : String := String.ofList (quoteChars s.toList)

def decimalText (d : Decimal.Number) : String :=
  let digits := toString d.digits
  let count := digits.length
  let leading : Int := d.scale + count - 1
  if d.digits = 0 then "0.0"
  else if -5 ≤ leading && leading < 16 then
    if 0 ≤ d.scale then digits ++ String.ofList (List.replicate d.scale.toNat '0') ++ ".0"
    else if 0 ≤ leading then
      let whole := leading.toNat + 1
      String.ofList (digits.toList.take whole) ++ "." ++ String.ofList (digits.toList.drop whole)
    else "0." ++ String.ofList (List.replicate ((-leading).toNat - 1) '0') ++ digits
  else
    let mantissa :=
      if count = 1 then digits
      else String.ofList (digits.toList.take 1) ++ "." ++ String.ofList (digits.toList.drop 1)
    mantissa ++ (if leading < 0 then "e-" else "e+") ++ toString leading.natAbs

def floatText (x : Float) : String :=
  if x.isNaN || x.isInf then "null"
  else
    let bits := x.toBits
    (if bits.toNat < 0x8000000000000000 then "" else "-")
      ++ decimalText (Decimal.Binary.ofBits (bits &&& 0x7fffffffffffffff)).shortest

mutual

def compact : Json → String
  | .null => "null"
  | .bool true => "true"
  | .bool false => "false"
  | .int n => toString n
  | .float x => floatText x
  | .string s => quote s
  | .array items => "[" ++ String.intercalate "," (compactItems items) ++ "]"
  | .object members => "\x7b" ++ String.intercalate "," (compactMembers members) ++ "\x7d"

def compactItems : List Json → List String
  | [] => []
  | item :: rest => item.compact :: compactItems rest

def compactMembers : List (String × Json) → List String
  | [] => []
  | (name, value) :: rest => (quote name ++ ":" ++ value.compact) :: compactMembers rest

end

def indent (depth : Nat) : String := String.ofList (List.replicate (2 * depth) ' ')

def bracketed (depth : Nat) (opening closing : String) (lines : List String) : String :=
  if lines.isEmpty then opening ++ closing
  else
    opening ++ "\n" ++ String.intercalate ",\n" (lines.map (indent (depth + 1) ++ ·))
      ++ "\n" ++ indent depth ++ closing

mutual

def prettyAt (depth : Nat) : Json → String
  | .array items => bracketed depth "[" "]" (prettyItems (depth + 1) items)
  | .object members => bracketed depth "\x7b" "\x7d" (prettyMembers (depth + 1) members)
  | j => j.compact

def prettyItems (depth : Nat) : List Json → List String
  | [] => []
  | item :: rest => prettyAt depth item :: prettyItems depth rest

def prettyMembers (depth : Nat) : List (String × Json) → List String
  | [] => []
  | (name, value) :: rest => (quote name ++ ": " ++ prettyAt depth value) :: prettyMembers depth rest

end

def pretty (j : Json) : String := prettyAt 0 j

end Turnstile.Json
