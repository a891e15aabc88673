import Turnstile.Json.Reader
import Turnstile.Text.Search
/-! Request targets: a path with a query, a whole URL, an authority alone or a
star. Only the path decides where a request goes. -/
namespace Turnstile.Http

structure Target where
  path : String
  deriving DecidableEq, Repr

namespace Target

def isPathChar (c : Char) : Bool :=
  let n := c.toNat
  n = 0x21 || n = 0x22 || (0x24 ≤ n && n ≤ 0x3B) || n = 0x3D || (0x40 ≤ n && n ≤ 0x5F)
    || (0x61 ≤ n && n ≤ 0x7E) || 0x7F ≤ n

def isQueryChar (c : Char) : Bool :=
  let n := c.toNat
  n = 0x21 || (0x24 ≤ n && n ≤ 0x3B) || n = 0x3D || 0x3F ≤ n

def queryFits : List Char → Bool
  | [] => true
  | c :: rest => c = '#' || (isQueryChar c && queryFits rest)

def takePath? : List Char → Option (List Char)
  | [] => some []
  | c :: rest =>
    if c = '?' then if queryFits rest then some [] else none
    else if c = '#' then some []
    else if isPathChar c then (takePath? rest).map (c :: ·)
    else none

def isSchemeChar (c : Char) : Bool := c.isAlphanum || c = '+' || c = '-' || c = '.'

def maxScheme : Nat := 64

def afterScheme? (s : List Char) : Except Unit (Option (List Char)) :=
  match s.dropWhile isSchemeChar with
  | ':' :: '/' :: '/' :: rest =>
    if maxScheme < (s.takeWhile isSchemeChar).length then .error () else .ok (some rest)
  | _ => .ok none

structure AuthorityScan where
  colons : Nat
  opened : Bool
  closed : Bool
  percent : Bool
  atEnd : Bool
  deriving DecidableEq, Repr

def isAuthorityChar (c : Char) : Bool :=
  c.isAlphanum || "!$&'()*+,-.;=_~".toList.contains c

def maxColons : Nat := 8

def scanAuthority (a : AuthorityScan) : List Char → Option (AuthorityScan × List Char)
  | [] => some (a, [])
  | c :: rest =>
    if c = '/' || c = '?' || c = '#' then some (a, c :: rest)
    else if c = ':' then
      if maxColons ≤ a.colons then some (a, [])
      else scanAuthority { a with colons := a.colons + 1, atEnd := false } rest
    else if c = '[' then
      if a.percent || a.opened then none else scanAuthority { a with opened := true, atEnd := false } rest
    else if c = ']' then
      if !a.opened || a.closed then none
      else scanAuthority { a with closed := true, colons := 0, percent := false, atEnd := false } rest
    else if c = '@' then scanAuthority { a with colons := 0, percent := false, atEnd := true } rest
    else if c = '%' then scanAuthority { a with percent := true, atEnd := false } rest
    else if isAuthorityChar c then scanAuthority { a with atEnd := false } rest
    else none

def afterAuthority? (s : List Char) : Option (List Char) :=
  match scanAuthority ⟨0, false, false, false, false⟩ s with
  | none => none
  | some (a, rest) =>
    if a.opened != a.closed || 1 < a.colons || a.atEnd || a.percent then none else some rest

def maxLength : Nat := 65534

def ofText? (text : String) : Option Target :=
  if text.isEmpty || maxLength < text.utf8ByteSize then none
  else if text = "*" then some ⟨"*"⟩
  else
    match text.toList with
    | '/' :: rest => (takePath? rest).map fun path => ⟨String.ofList ('/' :: path)⟩
    | s =>
      match afterScheme? s with
      | .error () => none
      | .ok none =>
        match afterAuthority? s with
        | some [] => some ⟨""⟩
        | _ => none
      | .ok (some rest) =>
        match afterAuthority? rest with
        | none => none
        | some tail =>
          if tail.length = rest.length then none
          else
            match takePath? tail with
            | none => none
            | some [] => some ⟨"/"⟩
            | some path => some ⟨String.ofList path⟩

end Target

def percentDecode : List UInt8 → List UInt8
  | [] => []
  | b :: x :: y :: tail =>
    if b = 37 then
      match Json.hexValue? (Char.ofNat x.toNat), Json.hexValue? (Char.ofNat y.toNat) with
      | some high, some low => (high * 16 + low).toUInt8 :: percentDecode tail
      | _, _ => b :: percentDecode (x :: y :: tail)
    else b :: percentDecode (x :: y :: tail)
  | b :: rest => b :: percentDecode rest

def decodePart? (s : String) : Option String :=
  String.fromUTF8? ⟨(percentDecode s.toUTF8.toList).toArray⟩

end Turnstile.Http
