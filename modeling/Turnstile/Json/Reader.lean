import Turnstile.Json.Basic
/-! Reading JSON text. A text is one value between blanks; containers nest at
most 127 deep; of equal member names the last counts. -/
namespace Turnstile.Json

def isBlank (c : Char) : Bool := c = ' ' || c = '\n' || c = '\t' || c = '\r'

def skipBlanks (s : List Char) : List Char := s.dropWhile isBlank

def hexValue? (c : Char) : Option Nat :=
  if '0' ≤ c && c ≤ '9' then some (c.toNat - 48)
  else if 'a' ≤ c && c ≤ 'f' then some (c.toNat - 87)
  else if 'A' ≤ c && c ≤ 'F' then some (c.toNat - 55)
  else none

def unit16? (a b c d : Char) : Option Nat := do
  let a ← hexValue? a
  let b ← hexValue? b
  let c ← hexValue? c
  let d ← hexValue? d
  some (((a * 16 + b) * 16 + c) * 16 + d)

def unescape? : Char → Option Char
  | '"' => some '"'
  | '\\' => some '\\'
  | '/' => some '/'
  | 'b' => some '\x08'
  | 'f' => some '\x0c'
  | 'n' => some '\n'
  | 'r' => some '\r'
  | 't' => some '\t'
  | _ => none

def stringBody : List Char → Option (List Char × List Char)
  | [] => none
  | '"' :: rest => some ([], rest)
  | '\\' :: 'u' :: a :: b :: c :: d :: rest =>
    match unit16? a b c d with
    | none => none
    | some hi =>
      if 0xDC00 ≤ hi && hi ≤ 0xDFFF then none
      else if 0xD800 ≤ hi && hi ≤ 0xDBFF then
        match rest with
        | '\\' :: 'u' :: a :: b :: c :: d :: rest =>
          match unit16? a b c d with
          | none => none
          | some lo =>
            if 0xDC00 ≤ lo && lo ≤ 0xDFFF then
              let code := 0x10000 + (hi - 0xD800) * 0x400 + (lo - 0xDC00)
              (stringBody rest).map fun (s, r) => (Char.ofNat code :: s, r)
            else none
        | _ => none
      else (stringBody rest).map fun (s, r) => (Char.ofNat hi :: s, r)
  | '\\' :: e :: rest =>
    match unescape? e with
    | none => none
    | some c => (stringBody rest).map fun (s, r) => (c :: s, r)
  | c :: rest =>
    if c.toNat < 32 || c = '\\' then none
    else (stringBody rest).map fun (s, r) => (c :: s, r)

def digitValue (c : Char) : Nat := c.toNat - 48

def word : Nat := UInt64.size

/-- `significand · 10 ^ exponent`, scaled in steps of at most `10 ^ 308`; none
beyond the largest double. -/
def scaleFloat : Nat → Float → Int → Option Float
  | 0, x, _ => some x
  | fuel + 1, x, exponent =>
    if exponent.natAbs ≤ 308 then
      let power := Float.ofScientific 1 false exponent.natAbs
      if 0 ≤ exponent then
        let y := x * power
        if y.isInf then none else some y
      else some (x / power)
    else if x == 0.0 then some x
    else if 0 ≤ exponent then none
    else scaleFloat fuel (x / 1e308) (exponent + 308)

def floatOf (negative : Bool) (significand : Nat) (exponent : Int) : Option Json := do
  let x ← scaleFloat 8 significand.toUInt64.toFloat (max exponent (-2000))
  some (.float (if negative then -x else x))

def takeDigits (acc : Nat) (count : Nat) : List Char → Nat × Nat × List Char
  | [] => (acc, count, [])
  | c :: rest =>
    if c.isDigit then
      let next := acc * 10 + digitValue c
      if next < word then takeDigits next (count + 1) rest else (acc, count, c :: rest)
    else (acc, count, c :: rest)

def exponentPart (negative : Bool) (significand : Nat) (exponent : Int) (s : List Char) :
    Option (Json × List Char) :=
  let (down, s) := match s with
    | '+' :: rest => (false, rest)
    | '-' :: rest => (true, rest)
    | s => (false, s)
  let digits := s.takeWhile Char.isDigit
  let rest := s.dropWhile Char.isDigit
  if digits.isEmpty then none
  else
    let power : Int := digits.foldl (fun n c => n * 10 + digitValue c) 0
    if power < 0x80000000 then
      (floatOf negative significand (if down then exponent - power else exponent + power)).map (·, rest)
    else if significand = 0 || down then some (.float (if negative then -0.0 else 0.0), rest)
    else none

def fractionEnd (negative : Bool) (significand : Nat) (exponent : Int) (s : List Char) :
    Option (Json × List Char) :=
  match s with
  | 'e' :: rest | 'E' :: rest => exponentPart negative significand exponent rest
  | s => (floatOf negative significand exponent).map (·, s)

def fractionPart (negative : Bool) (significand : Nat) (exponent : Int) (s : List Char) :
    Option (Json × List Char) :=
  let (value, count, rest) := takeDigits significand 0 s
  match rest with
  | c :: _ =>
    if c.isDigit then fractionEnd negative value (exponent - count) (rest.dropWhile Char.isDigit)
    else if count = 0 then none
    else fractionEnd negative value (exponent - count) rest
  | [] => if count = 0 then none else fractionEnd negative value (exponent - count) []

def wholePart (negative : Bool) (s : List Char) : Option (Json × List Char) :=
  let (value, count, rest) := takeDigits 0 0 s
  let dropped := rest.takeWhile Char.isDigit
  let rest := rest.dropWhile Char.isDigit
  if count = 0 then none
  else
    match rest with
    | '.' :: more => fractionPart negative value dropped.length more
    | 'e' :: more | 'E' :: more => exponentPart negative value dropped.length more
    | _ =>
      if dropped.isEmpty then
        if negative then
          if 0 < value && value ≤ 0x8000000000000000 then some (.int (-(value : Int)), rest)
          else some (.float (-value.toUInt64.toFloat), rest)
        else some (.int value, rest)
      else (floatOf negative value dropped.length).map (·, rest)

def number (s : List Char) : Option (Json × List Char) :=
  let (negative, s) := match s with
    | '-' :: rest => (true, rest)
    | s => (false, s)
  match s with
  | '0' :: c :: _ => if c.isDigit then none else wholePart negative s
  | s => wholePart negative s

mutual

def value : Nat → Nat → List Char → Option (Json × List Char)
  | 0, _, _ => none
  | fuel + 1, depth, s =>
    match skipBlanks s with
    | 'n' :: 'u' :: 'l' :: 'l' :: rest => some (.null, rest)
    | 't' :: 'r' :: 'u' :: 'e' :: rest => some (.bool true, rest)
    | 'f' :: 'a' :: 'l' :: 's' :: 'e' :: rest => some (.bool false, rest)
    | '"' :: rest => (stringBody rest).map fun (s, r) => (.string (String.ofList s), r)
    | '[' :: rest =>
      if depth = 0 then none
      else
        match skipBlanks rest with
        | ']' :: rest => some (.array [], rest)
        | rest => (items fuel (depth - 1) rest).map fun (xs, r) => (.array xs, r)
    | '\x7b' :: rest =>
      if depth = 0 then none
      else
        match skipBlanks rest with
        | '\x7d' :: rest => some (.object [], rest)
        | rest => (members fuel (depth - 1) rest).map fun (ms, r) => (ofMembers ms, r)
    | s => number s

def items : Nat → Nat → List Char → Option (List Json × List Char)
  | 0, _, _ => none
  | fuel + 1, depth, s =>
    match value fuel depth s with
    | none => none
    | some (x, s) =>
      match skipBlanks s with
      | ']' :: rest => some ([x], rest)
      | ',' :: rest => (items fuel depth rest).map fun (xs, r) => (x :: xs, r)
      | _ => none

def members : Nat → Nat → List Char → Option (List (String × Json) × List Char)
  | 0, _, _ => none
  | fuel + 1, depth, s =>
    match skipBlanks s with
    | '"' :: s =>
      match stringBody s with
      | none => none
      | some (name, s) =>
        match skipBlanks s with
        | ':' :: s =>
          match value fuel depth s with
          | none => none
          | some (x, s) =>
            let entry := (String.ofList name, x)
            match skipBlanks s with
            | '\x7d' :: rest => some ([entry], rest)
            | ',' :: rest => (members fuel depth rest).map fun (ms, r) => (entry :: ms, r)
            | _ => none
        | _ => none
    | _ => none

end

def read? (text : String) : Option Json :=
  let s := text.toList
  match value (s.length + 1) 127 s with
  | some (j, rest) => if (skipBlanks rest).isEmpty then some j else none
  | none => none

def readBytes? (bytes : ByteArray) : Option Json :=
  (String.fromUTF8? bytes).bind read?

end Turnstile.Json
