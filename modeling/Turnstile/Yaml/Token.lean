import Turnstile.Json.Reader
/-! Tokens of a YAML stream. Collections in block style begin and end with the
indentation; what turns out to be a key is marked after it was read. -/
namespace Turnstile.Yaml

inductive Token where
  | documentStart | documentEnd | streamEnd
  | blockSequence | blockMapping | blockEnd
  | openSequence | closeSequence | openMapping | closeMapping
  | entry | comma | key | value
  | scalar (text : String) (plain : Bool)
  deriving DecidableEq, Repr

structure Cursor where
  rest : List Char
  index : Nat
  line : Nat
  column : Nat
  deriving DecidableEq, Repr

def isSpace (c : Char) : Bool := c = ' ' || c = '\t'

def isBreak (c : Char) : Bool :=
  c = '\n' || c = '\r' || c = '\u0085' || c = '\u2028' || c = '\u2029'

def blankAhead : List Char → Bool
  | [] => true
  | c :: _ => isSpace c || isBreak c

def isMarker (dot : Char) : List Char → Bool
  | a :: b :: c :: rest => a = dot && b = dot && c = dot && blankAhead rest
  | _ => false

namespace Cursor

def skip (c : Cursor) : Cursor :=
  { c with rest := c.rest.drop 1, index := c.index + 1, column := c.column + 1 }

def skips (c : Cursor) (n : Nat) : Cursor :=
  { c with rest := c.rest.drop n, index := c.index + n, column := c.column + n }

def takeBreak (c : Cursor) : List Char × Cursor :=
  match c.rest with
  | '\r' :: '\n' :: rest => (['\n'], ⟨rest, c.index + 2, c.line + 1, 0⟩)
  | b :: rest =>
    if isBreak b then
      ([if b = '\u2028' || b = '\u2029' then b else '\n'], ⟨rest, c.index + 1, c.line + 1, 0⟩)
    else ([], c)
  | [] => ([], c)

def atMarker (c : Cursor) : Bool := c.column = 0 && (isMarker '-' c.rest || isMarker '.' c.rest)

def skipLine (c : Cursor) : Cursor :=
  let n := (c.rest.takeWhile fun x => !isBreak x).length
  c.skips n

end Cursor

structure Gap where
  blanks : List Char
  first : Option (List Char)
  more : List Char
  deriving DecidableEq, Repr

namespace Gap

def none : Gap := ⟨[], .none, []⟩

def text (g : Gap) : List Char :=
  match g.first with
  | .none => g.blanks
  | some ['\n'] => if g.more.isEmpty then [' '] else g.more
  | some b => b ++ g.more

def extend (indent : Int) : Nat → Gap → Cursor → Option (Gap × Cursor)
  | 0, g, c => some (g, c)
  | fuel + 1, g, c =>
    match c.rest with
    | [] => some (g, c)
    | x :: _ =>
      if isSpace x then
        if g.first.isSome then
          if x = '\t' && (c.column : Int) < indent then Option.none else extend indent fuel g c.skip
        else extend indent fuel { g with blanks := g.blanks ++ [x] } c.skip
      else if isBreak x then
        let (b, c) := c.takeBreak
        if g.first.isSome then extend indent fuel { g with more := g.more ++ b } c
        else extend indent fuel ⟨[], some b, []⟩ c
      else some (g, c)

end Gap

def plainRun (flow : Bool) : Cursor → Nat → List Char → Option (List Char × Cursor)
  | c, 0, run => some (run, c)
  | c, fuel + 1, run =>
    match c.rest with
    | [] => some (run, c)
    | x :: rest =>
      if blankAhead c.rest then some (run, c)
      else if flow && x = ':' && (rest.head?.any fun y => ",?[]\x7b\x7d".toList.contains y) then none
      else if (x = ':' && blankAhead rest) || (flow && ",[]\x7b\x7d".toList.contains x) then some (run, c)
      else plainRun flow c.skip fuel (x :: run)

def plainPieces (flow : Bool) (indent : Int) :
    Nat → Cursor → List Char → Gap → Option (List Char × Cursor × Bool)
  | 0, c, acc, g => some (acc, c, g.first.isSome)
  | fuel + 1, c, acc, g =>
    if c.atMarker || c.rest.head? = some '#' then some (acc, c, g.first.isSome)
    else
      match plainRun flow c (c.rest.length + 1) [] with
      | none => none
      | some (run, c) =>
        let (acc, g) := if run.isEmpty then (acc, g) else (run ++ (g.text.reverse ++ acc), Gap.none)
        if c.rest.isEmpty || !blankAhead c.rest then some (acc, c, g.first.isSome)
        else
          match g.extend indent (c.rest.length + 1) c with
          | none => none
          | some (g, c) =>
            if !flow && (c.column : Int) < indent then some (acc, c, g.first.isSome)
            else plainPieces flow indent fuel c acc g

def escaped? : Char → Option (Char ⊕ Nat)
  | '0' => some (.inl '\x00')
  | 'a' => some (.inl '\x07')
  | 'b' => some (.inl '\x08')
  | 't' | '\t' => some (.inl '\t')
  | 'n' => some (.inl '\n')
  | 'v' => some (.inl '\x0b')
  | 'f' => some (.inl '\x0c')
  | 'r' => some (.inl '\r')
  | 'e' => some (.inl '\x1b')
  | ' ' => some (.inl ' ')
  | '"' => some (.inl '"')
  | '/' => some (.inl '/')
  | '\\' => some (.inl '\\')
  | 'N' => some (.inl '\u0085')
  | '_' => some (.inl '\u00a0')
  | 'L' => some (.inl '\u2028')
  | 'P' => some (.inl '\u2029')
  | 'x' => some (.inr 2)
  | 'u' => some (.inr 4)
  | 'U' => some (.inr 8)
  | _ => none

def coded? (s : List Char) : Option Char :=
  (s.foldl (fun n c => n.bind fun n => (Json.hexValue? c).map fun d => n * 16 + d) (some 0)).bind fun n =>
    if (0xD800 ≤ n && n ≤ 0xDFFF) || 0x10FFFF < n then none else some (Char.ofNat n)

def quotedRun (quote : Char) : Nat → Cursor → List Char → Option (List Char × Cursor × Bool)
  | 0, c, run => some (run, c, false)
  | fuel + 1, c, run =>
    match c.rest with
    | [] => some (run, c, false)
    | x :: rest =>
      if blankAhead c.rest then some (run, c, false)
      else if quote = '\'' && x = '\'' && rest.head? = some '\'' then
        quotedRun quote fuel (c.skips 2) ('\'' :: run)
      else if x = quote then some (run, c, false)
      else if quote = '"' && x = '\\' then
        match rest with
        | [] => none
        | e :: rest =>
          if isBreak e then some (run, c.skip.takeBreak.2, true)
          else
            match escaped? e with
            | none => none
            | some (.inl y) => quotedRun quote fuel (c.skips 2) (y :: run)
            | some (.inr n) =>
              if rest.length < n then none
              else
                match coded? (rest.take n) with
                | none => none
                | some y => quotedRun quote fuel (c.skips (2 + n)) (y :: run)
      else quotedRun quote fuel c.skip (x :: run)

def quotedPieces (quote : Char) : Nat → Cursor → List Char → Option (List Char × Cursor)
  | 0, _, _ => none
  | fuel + 1, c, acc =>
    if c.atMarker || c.rest.isEmpty then none
    else
      match quotedRun quote (c.rest.length + 1) c [] with
      | none => none
      | some (run, c, broken) =>
        let acc := run ++ acc
        if c.rest.head? = some quote then some (acc, c.skip)
        else
          let g : Gap := if broken then ⟨[], some [], []⟩ else Gap.none
          match g.extend 0 (c.rest.length + 1) c with
          | none => none
          | some (g, c) => quotedPieces quote fuel c (g.text.reverse ++ acc)

/-- Blank lines of a block scalar, with the breaks they hold. An indentation of
zero is not known yet and is found here. -/
def blockBreaks (indent : Nat) :
    Nat → Cursor → List Char → Nat → Option (List Char × Cursor × Nat)
  | 0, c, breaks, widest => some (breaks, c, widest)
  | fuel + 1, c, breaks, widest =>
    let blanks := (c.rest.takeWhile (· = ' ')).length
    let c := c.skips (if indent = 0 then blanks else Nat.min blanks (indent - c.column))
    let widest := Nat.max widest c.column
    match c.rest with
    | [] => some (breaks, c, widest)
    | x :: _ =>
      if x = '\t' && (indent = 0 || c.column < indent) then none
      else if isBreak x then
        let (b, c) := c.takeBreak
        blockBreaks indent fuel c (breaks ++ b) widest
      else some (breaks, c, widest)

def blockLines (literal : Bool) (indent : Nat) :
    Nat → Cursor → List Char → List Char → List Char → Bool → Option (List Char × List Char × List Char × Cursor)
  | 0, c, acc, last, breaks, _ => some (acc, last, breaks, c)
  | fuel + 1, c, acc, last, breaks, indented =>
    if c.column ≠ indent || c.rest.isEmpty then some (acc, last, breaks, c)
    else
      let blank := c.rest.head?.any isSpace
      let folded := !literal && last.head? = some '\n' && !indented && !blank
      let joint := if folded then (if breaks.isEmpty then [' '] else breaks) else last ++ breaks
      let line := c.rest.takeWhile fun x => !isBreak x
      let (last, c) := c.skipLine.takeBreak
      match blockBreaks indent (c.rest.length + 1) c [] 0 with
      | none => none
      | some (breaks, c, _) =>
        blockLines literal indent fuel c (line.reverse ++ (joint.reverse ++ acc)) last breaks blank

inductive Chomping where
  | strip | clip | keep
  deriving DecidableEq, Repr

def chomping? : Char → Option Chomping
  | '+' => some .keep
  | '-' => some .strip
  | _ => none

def indicator? (c : Char) : Option Nat := if '1' ≤ c && c ≤ '9' then some (c.toNat - 48) else none

def blockHeader (c : Cursor) : Option (Chomping × Option Nat × Cursor) :=
  match c.rest with
  | x :: rest =>
    match chomping? x with
    | some ch =>
      match rest with
      | d :: _ =>
        if d.isDigit then (indicator? d).map fun n => (ch, some n, c.skips 2) else some (ch, none, c.skip)
      | [] => some (ch, none, c.skip)
    | none =>
      if x.isDigit then
        match indicator? x with
        | none => none
        | some n =>
          match rest.head?.bind chomping? with
          | some ch => some (ch, some n, c.skips 2)
          | none => some (.clip, some n, c.skip)
      else some (.clip, none, c)
  | [] => some (.clip, none, c)

def blockScalar (literal : Bool) (parent : Int) (c : Cursor) : Option (List Char × Cursor) := do
  let (ch, given, c) ← blockHeader c
  let c := c.skips (c.rest.takeWhile isSpace).length
  let c := if c.rest.head? = some '#' then c.skipLine else c
  if !c.rest.isEmpty && !(c.rest.head?.any isBreak) then none
  else
    let c := c.takeBreak.2
    let fixed := given.map fun n => (if 0 ≤ parent then parent + n else n).toNat
    let (breaks, c, widest) ← blockBreaks (fixed.getD 0) (c.rest.length + 1) c [] 0
    let indent := fixed.getD (Nat.max widest (Nat.max (parent + 1).toNat 1))
    let (acc, last, breaks, c) ← blockLines literal indent (c.rest.length + 1) c [] [] breaks false
    let ending := match ch with
      | .strip => []
      | .clip => last
      | .keep => last ++ breaks
    some (acc.reverse ++ ending, c)

/-- What may turn out to be a key, and where in the tokens it stands. -/
structure KeyMark where
  required : Bool
  token : Nat
  index : Nat
  line : Nat
  column : Nat
  deriving DecidableEq, Repr

structure Scan where
  cursor : Cursor
  tokens : Array Token
  indent : Int
  indents : List Int
  keys : List (Option KeyMark)
  keyAllowed : Bool
  deriving DecidableEq, Repr

namespace Scan

def start (s : List Char) : Scan := ⟨⟨s, 0, 0, 0⟩, #[], -1, [], [none], true⟩

def inFlow (s : Scan) : Bool := 1 < s.keys.length

def push (s : Scan) (t : Token) : Scan := { s with tokens := s.tokens.push t }

def insertAt (tokens : Array Token) (place : Nat) (t : Token) : Array Token :=
  (tokens.toList.take place ++ t :: tokens.toList.drop place).toArray

def skipToToken : Nat → Scan → Scan
  | 0, s => s
  | fuel + 1, s =>
    match s.cursor.rest with
    | [] => s
    | x :: _ =>
      if x = ' ' || (x = '\t' && (s.inFlow || !s.keyAllowed)) then
        skipToToken fuel { s with cursor := s.cursor.skip }
      else if x = '#' then
        skipToToken fuel { s with cursor := s.cursor.skipLine }
      else if isBreak x then
        skipToToken fuel { s with
          cursor := s.cursor.takeBreak.2
          keyAllowed := s.keyAllowed || !s.inFlow }
      else s

def maxKey : Nat := 1024

def isStale (c : Cursor) (k : KeyMark) : Bool := k.line < c.line || k.index + maxKey < c.index

def dropStale (s : Scan) : Option Scan :=
  let stale (k : Option KeyMark) : Bool := k.any (isStale s.cursor)
  if s.keys.any fun k => stale k && k.any (·.required) then none
  else some { s with keys := s.keys.map fun k => if stale k then none else k }

def dropKey (s : Scan) : Option Scan :=
  match s.keys with
  | some k :: rest => if k.required then none else some { s with keys := none :: rest }
  | _ => some s

def saveKey (s : Scan) : Option Scan :=
  if s.keyAllowed then do
    let s ← s.dropKey
    let c := s.cursor
    let mark : KeyMark :=
      ⟨!s.inFlow && s.indent == c.column, s.tokens.size, c.index, c.line, c.column⟩
    some { s with keys := some mark :: s.keys.drop 1 }
  else some s

def unroll (column : Int) : List Int → Scan → Scan
  | [], s => s
  | outer :: rest, s =>
    if !s.inFlow && column < s.indent then
      unroll column rest { s.push .blockEnd with indent := outer, indents := rest }
    else s

def closeBlocks (s : Scan) (column : Int) : Scan := unroll column s.indents s

def roll (s : Scan) (column : Nat) (place : Nat) (t : Token) : Scan :=
  if !s.inFlow && s.indent < column then
    { s with
      tokens := insertAt s.tokens place t
      indents := s.indent :: s.indents
      indent := column }
  else s

def take (s : Scan) (n : Nat) (t : Token) : Scan := { s.push t with cursor := s.cursor.skips n }

def marker (s : Scan) (t : Token) : Option Scan := do
  let s ← (s.closeBlocks (-1)).dropKey
  some { s.take 3 t with keyAllowed := false }

def openFlow (s : Scan) (t : Token) : Option Scan := do
  let s ← s.saveKey
  some { s.take 1 t with keys := none :: s.keys, keyAllowed := true }

def closeFlow (s : Scan) (t : Token) : Option Scan := do
  let s ← s.dropKey
  some { s.take 1 t with keys := if s.inFlow then s.keys.drop 1 else s.keys, keyAllowed := false }

def comma (s : Scan) : Option Scan := do
  let s ← s.dropKey
  some { s.take 1 .comma with keyAllowed := true }

def entry (s : Scan) : Option Scan :=
  if !s.inFlow && !s.keyAllowed then none
  else do
    let s ← (s.roll s.cursor.column s.tokens.size .blockSequence).dropKey
    some { s.take 1 .entry with keyAllowed := true }

def explicitKey (s : Scan) : Option Scan :=
  if !s.inFlow && !s.keyAllowed then none
  else do
    let s ← (s.roll s.cursor.column s.tokens.size .blockMapping).dropKey
    some { s.take 1 .key with keyAllowed := !s.inFlow }

def value (s : Scan) : Option Scan :=
  match s.keys with
  | some k :: rest =>
    let s := { s with tokens := insertAt s.tokens k.token .key, keys := none :: rest }
    let s := s.roll k.column k.token .blockMapping
    some { s.take 1 .value with keyAllowed := false }
  | _ =>
    if !s.inFlow && !s.keyAllowed then none
    else
      let s := s.roll s.cursor.column s.tokens.size .blockMapping
      some { s.take 1 .value with keyAllowed := !s.inFlow }

def block (s : Scan) (literal : Bool) : Option Scan := do
  let s ← s.dropKey
  let (text, cursor) ← blockScalar literal s.indent s.cursor.skip
  some { s.push (.scalar (String.ofList text) false) with cursor, keyAllowed := true }

def quoted (s : Scan) (quote : Char) : Option Scan := do
  let s ← s.saveKey
  let c := s.cursor.skip
  let (text, cursor) ← quotedPieces quote (c.rest.length + 2) c []
  some { s.push (.scalar (String.ofList text.reverse) false) with cursor, keyAllowed := false }

def plain (s : Scan) : Option Scan := do
  let s ← s.saveKey
  let c := s.cursor
  let (text, cursor, broken) ← plainPieces s.inFlow (s.indent + 1) (c.rest.length + 1) c [] Gap.none
  some { s.push (.scalar (String.ofList text.reverse) true) with cursor, keyAllowed := broken }

def atEnd (s : Scan) : Option Scan := do
  let s ← (s.closeBlocks (-1)).dropKey
  some (s.push .streamEnd)

def isIndicator (c : Char) : Bool := "-?:,[]\x7b\x7d#&*!|>'\"%@\x60".toList.contains c

def beginsPlain (flow : Bool) (x : Char) (rest : List Char) : Bool :=
  (!isSpace x && !isIndicator x) || (x = '-' && !(rest.head?.any isSpace))
    || (!flow && (x = '?' || x = ':') && !blankAhead rest)

/-- The next token. Directives, anchors, aliases and tags are refused. -/
def next (s : Scan) : Option Scan := do
  let s ← (skipToToken (s.cursor.rest.length + 1) s).dropStale
  let s := s.closeBlocks s.cursor.column
  match s.cursor.rest with
  | [] => s.atEnd
  | x :: rest =>
    if s.cursor.column = 0 && isMarker '-' s.cursor.rest then s.marker .documentStart
    else if s.cursor.column = 0 && isMarker '.' s.cursor.rest then s.marker .documentEnd
    else if x = '[' then s.openFlow .openSequence
    else if x = '\x7b' then s.openFlow .openMapping
    else if x = ']' then s.closeFlow .closeSequence
    else if x = '\x7d' then s.closeFlow .closeMapping
    else if x = ',' then s.comma
    else if x = '-' && blankAhead rest then s.entry
    else if x = '?' && (s.inFlow || blankAhead rest) then s.explicitKey
    else if x = ':' && (s.inFlow || blankAhead rest) then s.value
    else if x = '|' && !s.inFlow then s.block true
    else if x = '>' && !s.inFlow then s.block false
    else if x = '\'' || x = '"' then s.quoted x
    else if beginsPlain s.inFlow x rest then s.plain
    else none

def run : Nat → Scan → Array Token
  | 0, s => s.tokens
  | fuel + 1, s =>
    match s.next with
    | none => s.tokens
    | some s => if s.tokens.back? = some .streamEnd then s.tokens else run fuel s

end Scan

def isAllowed (c : Char) : Bool :=
  let n := c.toNat
  n = 9 || n = 10 || n = 13 || (0x20 ≤ n && n ≤ 0x7E) || n = 0x85 || (0xA0 ≤ n && n ≤ 0xFFFD && n ≠ 0xFEFF)
    || 0x10000 ≤ n

def withoutMark : List Char → List Char
  | '\ufeff' :: rest => rest
  | s => s

def tokens (text : String) : List Token :=
  let s := withoutMark text.toList
  if s.all isAllowed then (Scan.run (s.length + 2) (Scan.start s)).toList else []

end Turnstile.Yaml
