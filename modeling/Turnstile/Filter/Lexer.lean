import Turnstile.Filter.Expr
import Turnstile.Text.Letter
import Turnstile.Text.Blank
/-! Tokens of a filter source. Positions count characters, while the length of
the source and the texts of tokens are measured in bytes: after a character of
several bytes a text may be cut short or shifted, and a cut inside a character
is a fault of its own. -/
namespace Turnstile.Filter

inductive Token where
  | operator (op : Operator)
  | leftParen | rightParen | leftBracket | rightBracket | leftBrace | rightBrace
  | comma | dot | colon | question | pipe
  | true | false | null
  | name (text : String)
  | number (x : Float)
  | string (text : String)
  deriving BEq, Repr

structure Lexeme where
  token : Token
  start : Nat
  stop : Nat
  deriving BEq, Repr

inductive Fault where
  | malformed (offset : Nat)
  | offBoundary
  deriving DecidableEq, Repr

structure Source where
  chars : Array Char
  bytes : List UInt8
  size : Nat
  deriving Repr

namespace Source

def ofString (text : String) : Source :=
  let bytes := text.toUTF8.toList
  ⟨text.toList.toArray, bytes, bytes.length⟩

def charAt (src : Source) (index : Nat) : Char := src.chars.getD index '\x00'

def cut? (src : Source) (start stop : Nat) : Option String :=
  String.fromUTF8? ⟨((src.bytes.drop start).take (stop - start)).toArray⟩

def linesSize : Nat → List UInt8 → Nat
  | 0, _ => 0
  | _, [] => 0
  | lines + 1, b :: rest => 1 + linesSize (if b = 10 then lines else lines + 1) rest

def offset (src : Source) (line column : Nat) : Nat :=
  min (linesSize (line - 1) src.bytes + (column - 1)) src.size

end Source

structure Cursor where
  index : Nat
  line : Nat
  column : Nat
  deriving DecidableEq, Repr

namespace Cursor

def start : Cursor := ⟨0, 1, 1⟩

def atEnd (src : Source) (c : Cursor) : Bool := src.size ≤ c.index

def peek (src : Source) (c : Cursor) : Char := src.charAt c.index

def advance (src : Source) (c : Cursor) : Cursor :=
  if c.atEnd src then c else { c with index := c.index + 1, column := c.column + 1 }

def skipBlanks (src : Source) : Nat → Cursor → Cursor
  | 0, c => c
  | fuel + 1, c =>
    let next := c.peek src
    if c.atEnd src || !Text.isBlank next then c
    else
      let placed :=
        if next = '\n' then { c with line := c.line + 1, column := 1 }
        else { c with column := c.column + 1 }
      skipBlanks src fuel (placed.advance src)

def skipWhile (src : Source) (keep : Char → Bool) : Nat → Cursor → Cursor
  | 0, c => c
  | fuel + 1, c =>
    if !c.atEnd src && keep (c.peek src) then skipWhile src keep fuel (c.advance src) else c

def fault (src : Source) (c : Cursor) : Fault := .malformed (src.offset c.line c.column)

end Cursor

def unsigned? (s : List Char) : Option Float :=
  let whole := s.takeWhile Char.isDigit
  let value (digits : List Char) := digits.foldl (fun n c => n * 10 + (c.toNat - 48)) 0
  match s.dropWhile Char.isDigit with
  | [] => if whole.isEmpty then none else some (Float.ofScientific (value whole) false 0)
  | '.' :: places =>
    if places.all Char.isDigit && !(whole.isEmpty && places.isEmpty) then
      some (Float.ofScientific (value (whole ++ places)) true places.length)
    else none
  | _ => none

def decimal? (text : String) : Option Float :=
  match text.toList with
  | '-' :: s => (unsigned? s).map fun x => -x
  | '+' :: s => unsigned? s
  | s => unsigned? s

def word (text : String) : Token :=
  match text with
  | "true" => .true
  | "false" => .false
  | "null" => .null
  | "in" => .operator .contained
  | _ => .name text

def unescapeQuote (quote : Char) : List Char → List Char
  | '\\' :: c :: rest => if c = quote then c :: unescapeQuote quote rest else '\\' :: unescapeQuote quote (c :: rest)
  | c :: rest => c :: unescapeQuote quote rest
  | [] => []

def stringEnd (src : Source) (quote : Char) : Nat → Cursor → Except Fault Cursor
  | 0, c => .error (c.fault src)
  | fuel + 1, c =>
    if c.atEnd src then .error (c.fault src)
    else
      let here := c.peek src
      let next := c.advance src
      if here = quote then .ok next
      else if here = '\\' then
        if !next.atEnd src && next.peek src = quote then stringEnd src quote fuel (next.advance src)
        else .error (next.fault src)
      else stringEnd src quote fuel next

def symbol? (first second : Char) : Option (Token × Bool) :=
  match first with
  | '+' => some (.operator .add, false)
  | '-' => some (.operator .subtract, false)
  | '*' => some (.operator .multiply, false)
  | '/' => if second = '/' then some (.operator .floorDivide, true) else some (.operator .divide, false)
  | '%' => some (.operator .modulus, false)
  | '^' => some (.operator .exponent, false)
  | '=' => if second = '=' then some (.operator .equal, true) else none
  | '!' => if second = '=' then some (.operator .notEqual, true) else none
  | '>' => if second = '=' then some (.operator .atLeast, true) else some (.operator .greater, false)
  | '<' => if second = '=' then some (.operator .atMost, true) else some (.operator .less, false)
  | '&' => if second = '&' then some (.operator .and, true) else none
  | '|' => if second = '|' then some (.operator .or, true) else some (.pipe, false)
  | '(' => some (.leftParen, false)
  | ')' => some (.rightParen, false)
  | '[' => some (.leftBracket, false)
  | ']' => some (.rightBracket, false)
  | '\x7b' => some (.leftBrace, false)
  | '\x7d' => some (.rightBrace, false)
  | ',' => some (.comma, false)
  | '.' => some (.dot, false)
  | ':' => some (.colon, false)
  | '?' => some (.question, false)
  | _ => none

def numberEnd (src : Source) (c : Cursor) : Cursor :=
  let whole := c.skipWhile src Char.isDigit src.size
  if whole.peek src = '.' && (src.charAt (whole.index + 1)).isDigit then
    (whole.advance src).skipWhile src Char.isDigit src.size
  else whole

def scan (src : Source) (c : Cursor) : Except Fault (Token × Cursor) :=
  let here := c.peek src
  let next := c.advance src
  let second := if next.atEnd src then '\x00' else next.peek src
  if here = '"' || here = '\'' then do
    let stop ← stringEnd src here src.size next
    match src.cut? (c.index + 1) (stop.index - 1) with
    | some text => .ok (.string (String.ofList (unescapeQuote here text.toList)), stop)
    | none => .error .offBoundary
  else if here.isDigit || (here = '.' && second.isDigit) then
    let stop := numberEnd src c
    match (src.cut? c.index stop.index).bind decimal? with
    | some x => .ok (.number x, stop)
    | none => .error .offBoundary
  else if Text.isAlphabetic here || here = '_' then
    let stop := next.skipWhile src (fun x => Text.isAlphanumeric x || x = '_') src.size
    match src.cut? c.index stop.index with
    | some text => .ok (word text, stop)
    | none => .error .offBoundary
  else
    match symbol? here second with
    | some (token, true) => .ok (token, next.advance src)
    | some (token, false) => .ok (token, next)
    | none => .error (if here = '=' || here = '!' || here = '&' then next.fault src else c.fault src)

/-- The tokens up to the end or the first fault; the fault of a parse that runs
out of tokens comes with them. -/
def lexemesFrom (src : Source) : Nat → Cursor → Nat → List Lexeme × Option Fault × Nat
  | 0, _, last => ([], none, last)
  | fuel + 1, c, last =>
    let c := c.skipBlanks src src.size
    if c.atEnd src then ([], none, last)
    else
      match scan src c with
      | .error fault => ([], some fault, last)
      | .ok (token, stop) =>
        let (more, fault, last) := lexemesFrom src fuel stop stop.index
        (⟨token, c.index, stop.index⟩ :: more, fault, last)

structure Lexed where
  lexemes : List Lexeme
  fault : Option Fault
  last : Nat
  deriving Repr

def lex (text : String) : Lexed :=
  let src := Source.ofString text
  let (lexemes, fault, last) := lexemesFrom src (src.size + 1) Cursor.start 0
  ⟨lexemes, fault, last⟩

end Turnstile.Filter
