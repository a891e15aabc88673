import Turnstile.Json.Reader
import Turnstile.Toml.Table
/-! Reading TOML text: headers, keys with values, comments. Dates and times are
not among the values. Each reader gives what it read and the rest of the text. -/
namespace Turnstile.Toml

def isSpace (c : Char) : Bool := c = ' ' || c = '\t'

def skipSpace (s : List Char) : List Char := s.dropWhile isSpace

def isPlain (c : Char) : Bool := c = '\t' || (32 ≤ c.toNat && c.toNat ≠ 127)

def lineBreak? : List Char → Option (List Char)
  | '\n' :: rest => some rest
  | '\r' :: '\n' :: rest => some rest
  | _ => none

def skipComment : List Char → List Char
  | '#' :: rest => rest.dropWhile isPlain
  | s => s

def lineEnd? (s : List Char) : Option (List Char) :=
  match skipComment (skipSpace s) with
  | [] => some []
  | s => lineBreak? s

def skipLines : Nat → List Char → List Char
  | 0, s => s
  | fuel + 1, s =>
    match lineBreak? (skipComment (skipSpace s)) with
    | some rest => skipLines fuel rest
    | none => skipSpace s

def skipBreaks : List Char → List Char
  | '\r' :: '\n' :: rest => skipBreaks rest
  | c :: rest => if c = '\n' || isSpace c then skipBreaks rest else c :: rest
  | [] => []

/- strings -/

def coded? (digits : List Char) : Option Char := do
  let n ← digits.foldlM (fun n c => (Json.hexValue? c).map (n * 16 + ·)) 0
  if n < 0xD800 || (0xE000 ≤ n && n < 0x110000) then some (Char.ofNat n) else none

def escaped : List Char → Option (Char × List Char)
  | 'b' :: rest => some ('\x08', rest)
  | 't' :: rest => some ('\t', rest)
  | 'n' :: rest => some ('\n', rest)
  | 'f' :: rest => some ('\x0c', rest)
  | 'r' :: rest => some ('\r', rest)
  | '"' :: rest => some ('"', rest)
  | '\\' :: rest => some ('\\', rest)
  | 'u' :: rest => if rest.length < 4 then none else (coded? (rest.take 4)).map (·, rest.drop 4)
  | 'U' :: rest => if rest.length < 8 then none else (coded? (rest.take 8)).map (·, rest.drop 8)
  | _ => none

def shortString (quote : Char) : Nat → List Char → Option (List Char × List Char)
  | 0, _ => none
  | fuel + 1, s =>
    match s with
    | [] => none
    | c :: rest =>
      if c = quote then some ([], rest)
      else if c = '\\' && quote = '"' then
        match escaped rest with
        | none => none
        | some (c, rest) => (shortString quote fuel rest).map fun (cs, r) => (c :: cs, r)
      else if isPlain c then (shortString quote fuel rest).map fun (cs, r) => (c :: cs, r)
      else none

/-- A string of several lines up to its three closing quotes. It may end in one
or two quotes of its own. -/
def longString (quote : Char) : Nat → List Char → Option (List Char × List Char)
  | 0, _ => none
  | fuel + 1, s =>
    match s with
    | [] => none
    | c :: rest =>
      if c = quote then
        let run := s.takeWhile (· = quote)
        let rest := s.dropWhile (· = quote)
        if run.length < 3 then (longString quote fuel rest).map fun (cs, r) => (run ++ cs, r)
        else if run.length ≤ 5 then some (run.drop 3, rest)
        else none
      else if c = '\\' && quote = '"' then
        match lineBreak? (skipSpace rest) with
        | some rest => longString quote fuel (skipBreaks rest)
        | none =>
          match escaped rest with
          | none => none
          | some (c, rest) => (longString quote fuel rest).map fun (cs, r) => (c :: cs, r)
      else
        match lineBreak? s with
        | some rest => (longString quote fuel rest).map fun (cs, r) => ('\n' :: cs, r)
        | none =>
          if isPlain c then (longString quote fuel rest).map fun (cs, r) => (c :: cs, r)
          else none

def string (quote : Char) (s : List Char) : Option (String × List Char) :=
  let read := match s with
    | a :: b :: rest =>
      if a = quote && b = quote then
        longString quote (rest.length + 1) ((lineBreak? rest).getD rest)
      else shortString quote (s.length + 1) s
    | s => shortString quote (s.length + 1) s
  read.map fun (cs, r) => (String.ofList cs, r)

/- keys -/

def isBare (c : Char) : Bool := c.isAlphanum || c = '-' || c = '_'

def key : List Char → Option (String × List Char)
  | [] => none
  | c :: rest =>
    if c = '"' || c = '\'' then
      (shortString c (rest.length + 1) rest).map fun (cs, r) => (String.ofList cs, r)
    else
      let name := (c :: rest).takeWhile isBare
      if name.isEmpty then none else some (String.ofList name, (c :: rest).dropWhile isBare)

def keyPath : Nat → List Char → Option ((List String × String) × List Char)
  | 0, _ => none
  | fuel + 1, s =>
    match key (skipSpace s) with
    | none => none
    | some (name, s) =>
      match skipSpace s with
      | '.' :: rest => (keyPath fuel rest).map fun ((path, last), r) => ((name :: path, last), r)
      | s => some (([], name), s)

/- numbers -/

def moreDigits (isDigit : Char → Bool) : List Char → List Char × List Char
  | '_' :: c :: rest =>
    if isDigit c then
      let (ds, r) := moreDigits isDigit rest
      (c :: ds, r)
    else ([], '_' :: c :: rest)
  | c :: rest =>
    if isDigit c then
      let (ds, r) := moreDigits isDigit rest
      (c :: ds, r)
    else ([], c :: rest)
  | [] => ([], [])

def digits (isDigit : Char → Bool) (s : List Char) : Option (List Char × List Char) :=
  match moreDigits isDigit s with
  | ([], _) => none
  | (ds, rest) => if s.head? = some '_' then none else some (ds, rest)

def numberOf (base : Nat) (ds : List Char) : Nat :=
  ds.foldl (fun n c => n * base + (Json.hexValue? c).getD 0) 0

def whole (n : Int) (rest : List Char) : Option (Json × List Char) :=
  if -0x8000000000000000 ≤ n && n < 0x8000000000000000 then some (.int n, rest) else none

def inBase (base : Nat) (s : List Char) : Option (Json × List Char) := do
  let (ds, rest) ← digits (fun c => (Json.hexValue? c).any (· < base)) s
  whole (numberOf base ds) rest

def float? (negative : Bool) (significand : List Char) (exponent : Int) : Option Json :=
  let n := numberOf 10 significand
  let x :=
    if n = 0 || exponent < -(400 + (significand.length : Int)) then 0.0
    else if 400 < exponent then 1.0 / 0.0
    else if 0 ≤ exponent then Float.ofScientific n false exponent.toNat
    else Float.ofScientific n true exponent.natAbs
  if x.isInf then none else some (.float (if negative then -x else x))

def fraction (negative : Bool) (before : List Char) (s : List Char) : Option (Json × List Char) := do
  let (after, s) ← match s with
    | '.' :: rest => digits Char.isDigit rest
    | s => some ([], s)
  let (power, rest) ← exponent s
  (float? negative (before ++ after) (power - after.length)).map (·, rest)
where
  exponent (s : List Char) : Option (Int × List Char) :=
    match s with
    | 'e' :: rest | 'E' :: rest =>
      match rest with
      | '-' :: rest => (digits Char.isDigit rest).map fun (ds, r) => (-(numberOf 10 ds : Int), r)
      | '+' :: rest => (digits Char.isDigit rest).map fun (ds, r) => ((numberOf 10 ds : Int), r)
      | rest => (digits Char.isDigit rest).map fun (ds, r) => ((numberOf 10 ds : Int), r)
    | s => some (0, s)

def decimal (negative : Bool) (s : List Char) : Option (Json × List Char) :=
  match s with
  | 'i' :: 'n' :: 'f' :: rest => some (.float (if negative then -(1.0 / 0.0) else 1.0 / 0.0), rest)
  | 'n' :: 'a' :: 'n' :: rest => some (.float (0.0 / 0.0), rest)
  | s =>
    let read := match s with
      | '0' :: rest => some (['0'], rest)
      | s => digits Char.isDigit s
    match read with
    | none => none
    | some (ds, rest) =>
      match rest with
      | '.' :: _ | 'e' :: _ | 'E' :: _ => fraction negative ds rest
      | rest => whole (if negative then -(numberOf 10 ds : Int) else numberOf 10 ds) rest

def number : List Char → Option (Json × List Char)
  | '0' :: 'x' :: rest => inBase 16 rest
  | '0' :: 'o' :: rest => inBase 8 rest
  | '0' :: 'b' :: rest => inBase 2 rest
  | '+' :: rest => decimal false rest
  | '-' :: rest => decimal true rest
  | s => decimal false s

/- values -/

mutual

def value : Nat → List Char → Option (Json × List Char)
  | 0, _ => none
  | fuel + 1, s =>
    match s with
    | '"' :: rest => (string '"' rest).map fun (t, r) => (.string t, r)
    | '\'' :: rest => (string '\'' rest).map fun (t, r) => (.string t, r)
    | 't' :: 'r' :: 'u' :: 'e' :: rest => some (.bool true, rest)
    | 'f' :: 'a' :: 'l' :: 's' :: 'e' :: rest => some (.bool false, rest)
    | '[' :: rest => (items fuel rest).map fun (xs, r) => (.array xs, r)
    | '\x7b' :: rest =>
      match skipSpace rest with
      | '\x7d' :: rest => some (.object [], rest)
      | rest => (pairs fuel [] rest).map fun (es, r) => (Entries.toJson es, r)
    | s => number s

def items : Nat → List Char → Option (List Json × List Char)
  | 0, _ => none
  | fuel + 1, s =>
    match skipLines (fuel + 1) s with
    | ']' :: rest => some ([], rest)
    | s =>
      match value fuel s with
      | none => none
      | some (x, s) =>
        match skipLines (fuel + 1) s with
        | ',' :: rest => (items fuel rest).map fun (xs, r) => (x :: xs, r)
        | ']' :: rest => some ([x], rest)
        | _ => none

def pairs : Nat → Entries → List Char → Option (Entries × List Char)
  | 0, _, _ => none
  | fuel + 1, es, s =>
    match keyPath (fuel + 1) s with
    | some ((path, name), '=' :: s) =>
      match value fuel (skipSpace s) with
      | none => none
      | some (v, s) =>
        match es.assign path name v .defined with
        | none => none
        | some (_, es) =>
          match skipSpace s with
          | ',' :: rest => pairs fuel es rest
          | '\x7d' :: rest => some (es, rest)
          | _ => none
    | _ => none

end

/- documents -/

def lines : Nat → Entries → List String → List Char → Option Entries
  | 0, _, _, _ => none
  | fuel + 1, es, header, s =>
    match skipSpace s with
    | [] => some es
    | '#' :: s =>
      match lineEnd? ('#' :: s) with
      | none => none
      | some s => lines fuel es header s
    | '[' :: '[' :: s =>
      match keyPath (fuel + 1) s with
      | some ((path, name), ']' :: ']' :: s) =>
        match es.within path (Entries.extend name), lineEnd? s with
        | some es, some s => lines fuel es (path ++ [name]) s
        | _, _ => none
      | _ => none
    | '[' :: s =>
      match keyPath (fuel + 1) s with
      | some ((path, name), ']' :: s) =>
        match es.within path (Entries.define name), lineEnd? s with
        | some es, some s => lines fuel es (path ++ [name]) s
        | _, _ => none
      | _ => none
    | s =>
      match lineBreak? s with
      | some s => lines fuel es header s
      | none =>
        match keyPath (fuel + 1) s with
        | some ((path, name), '=' :: s) =>
          match value (fuel + 1) (skipSpace s) with
          | none => none
          | some (v, s) =>
            match es.within header (Entries.assign path name v), lineEnd? s with
            | some es, some s => lines fuel es header s
            | _, _ => none
        | _ => none

def read? (text : String) : Option Json :=
  let s := match text.toList with
    | '\ufeff' :: rest => rest
    | s => s
  (lines (s.length + 1) [] [] s).map Entries.toJson

end Turnstile.Toml
