import Turnstile.Json.Basic
/-! YAML values, and how a plain scalar is read: as null, a boolean or a number
where it looks like one, as text otherwise. -/
namespace Turnstile

inductive Yaml where
  | null
  | bool (b : Bool)
  | int (n : Int)
  | float (x : Float)
  | text (s : String)
  | sequence (items : List Yaml)
  | mapping (entries : List (Yaml × Yaml))
  deriving BEq, Repr

namespace Yaml

instance : Inhabited Yaml := ⟨.null⟩

mutual

def toJson : Yaml → Json
  | null => .null
  | bool b => .bool b
  | int n => .int n
  | float x => .float x
  | text s => .string s
  | sequence items => .array (itemsToJson items)
  | mapping entries =>
    match membersToJson entries with
    | some members => Json.ofMembers members
    | none => .bool false

def itemsToJson : List Yaml → List Json
  | [] => []
  | y :: rest => toJson y :: itemsToJson rest

def membersToJson : List (Yaml × Yaml) → Option (List (String × Json))
  | [] => some []
  | (.text name, y) :: rest => (membersToJson rest).map ((name, toJson y) :: ·)
  | _ => none

end

def digitIn? (base : Nat) (c : Char) : Option Nat :=
  let n :=
    if c.isDigit then c.toNat - 48
    else if 'a' ≤ c && c ≤ 'f' then c.toNat - 87
    else if 'A' ≤ c && c ≤ 'F' then c.toNat - 55
    else base
  if n < base then some n else none

def digits? (base : Nat) (s : List Char) : Option Nat :=
  if s.isEmpty then none
  else s.foldl (fun n c => n.bind fun n => (digitIn? base c).map fun d => n * base + d) (some 0)

def prefixed? : List Char → Option Nat
  | '0' :: 'x' :: rest => digits? 16 rest
  | '0' :: 'o' :: rest => digits? 8 rest
  | '0' :: 'b' :: rest => digits? 2 rest
  | _ => none

def leadingZero : List Char → Bool
  | '0' :: c :: rest => (c :: rest).all Char.isDigit
  | _ => false

def magnitude? (s : List Char) : Option Nat :=
  (prefixed? s).or (if leadingZero s then none else digits? 10 s)

def whole? : List Char → Option Int
  | '+' :: rest => (magnitude? rest).map fun n => (n : Int)
  | '-' :: rest => (magnitude? rest).map fun n => -(n : Int)
  | s => (magnitude? s).map fun n => (n : Int)

def decimal? (s : List Char) : Option Float :=
  let whole := s.takeWhile Char.isDigit
  let rest := s.dropWhile Char.isDigit
  let (fraction, rest) := match rest with
    | '.' :: rest => (rest.takeWhile Char.isDigit, rest.dropWhile Char.isDigit)
    | rest => ([], rest)
  if whole.isEmpty && fraction.isEmpty then none
  else
    let significand := (digits? 10 (whole ++ fraction)).getD 0
    let scaled (exponent : Int) : Float :=
      let exponent := exponent - fraction.length
      Float.ofScientific significand (decide (exponent < 0)) exponent.natAbs
    match rest with
    | [] => some (scaled 0)
    | e :: rest =>
      if e = 'e' || e = 'E' then
        let (down, rest) := match rest with
          | '-' :: rest => (true, rest)
          | '+' :: rest => (false, rest)
          | rest => (false, rest)
        (digits? 10 rest).map fun n =>
          let n := Nat.min n 100000
          scaled (if down then -(n : Int) else n)
      else none

def infinite : List Char → Bool
  | ['.', 'i', 'n', 'f'] | ['.', 'I', 'n', 'f'] | ['.', 'I', 'N', 'F'] => true
  | _ => false

def real? (s : List Char) : Option Float :=
  let finite (x : Float) : Option Float := if x.isInf then none else some x
  match s with
  | ['.', 'n', 'a', 'n'] | ['.', 'N', 'a', 'N'] | ['.', 'N', 'A', 'N'] => some (0.0 / 0.0)
  | '+' :: rest => if infinite rest then some (1.0 / 0.0) else (decimal? rest).bind finite
  | '-' :: rest => if infinite rest then some (-1.0 / 0.0) else (decimal? rest).bind fun x => finite (-x)
  | s => if infinite s then some (1.0 / 0.0) else (decimal? s).bind finite

def unsigned : List Char → List Char
  | '+' :: rest | '-' :: rest => rest
  | s => s

/-- A plain scalar. A whole number has to fit a word of 64 bits; one that fits
128 bits only is refused. -/
def ofPlain? (text : String) : Option Yaml :=
  match text with
  | "" | "~" | "null" | "Null" | "NULL" => some .null
  | "true" | "True" | "TRUE" => some (.bool true)
  | "false" | "False" | "FALSE" => some (.bool false)
  | _ =>
    let s := text.toList
    match whole? s with
    | some n =>
      if -0x8000000000000000 ≤ n && n < 0x10000000000000000 then some (.int n)
      else if -0x80000000000000000000000000000000 ≤ n && n < 0x100000000000000000000000000000000 then none
      else some ((real? s).elim (.text text) .float)
    | none =>
      if leadingZero (unsigned s) then some (.text text)
      else some ((real? s).elim (.text text) .float)

end Yaml
end Turnstile
