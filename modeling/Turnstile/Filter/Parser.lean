import Turnstile.Filter.Lexer
/-! The expression that tokens form. A parse stops at the first token that
cannot continue what stands before it. -/
namespace Turnstile.Filter

namespace Parser

def stuck (ending : Fault) (tokens : List Lexeme) : Except Fault α :=
  match tokens with
  | [] => .error ending
  | t :: _ => .error (.malformed t.start)

def expect (ending : Fault) (token : Token) (tokens : List Lexeme) : Except Fault (List Lexeme) :=
  match tokens with
  | t :: rest => if t.token == token then .ok rest else stuck ending tokens
  | [] => stuck ending tokens

def takeName (ending : Fault) (tokens : List Lexeme) : Except Fault (String × List Lexeme) :=
  match tokens with
  | ⟨.name text, _, _⟩ :: rest => .ok (text, rest)
  | _ => stuck ending tokens

mutual

/-- Levels 0 to 4 are the binary operators, 5 the conditional, 6 transforms, 7
member access and 8 what stands alone. -/
def expr (ending : Fault) : Nat → Nat → List Lexeme → Except Fault (Expr × List Lexeme)
  | 0, _, tokens => stuck ending tokens
  | fuel + 1, level, tokens =>
    if level < 8 then do
      let (left, tokens) ← expr ending fuel (level + 1) tokens
      continued ending fuel level left tokens
    else atom ending fuel tokens

def continued (ending : Fault) : Nat → Nat → Expr → List Lexeme → Except Fault (Expr × List Lexeme)
  | 0, _, _, tokens => stuck ending tokens
  | fuel + 1, level, left, tokens =>
    match level, tokens with
    | 5, ⟨.question, _, _⟩ :: rest => do
      let (truthy, rest) ← expr ending fuel 6 rest
      let rest ← expect ending .colon rest
      let (falsy, rest) ← expr ending fuel 6 rest
      continued ending fuel level (.conditional left truthy falsy) rest
    | 6, ⟨.pipe, _, _⟩ :: rest => do
      let (name, rest) ← takeName ending rest
      match rest with
      | ⟨.leftParen, _, _⟩ :: rest => do
        let (arguments, rest) ← items ending fuel .rightParen rest
        continued ending fuel level (.transform name left arguments) rest
      | _ => continued ending fuel level (.transform name left []) rest
    | 7, ⟨.dot, _, _⟩ :: rest => do
      let (name, rest) ← takeName ending rest
      continued ending fuel level (.member left name) rest
    | 7, ⟨.leftBracket, _, _⟩ :: ⟨.dot, _, _⟩ :: rest => do
      let (name, rest) ← takeName ending rest
      match rest with
      | ⟨.operator op, start, _⟩ :: rest =>
        if op.isComparison then do
          let (right, rest) ← expr ending fuel 8 rest
          let rest ← expect ending .rightBracket rest
          continued ending fuel level (.select left name op right) rest
        else .error (.malformed start)
      | _ => stuck ending rest
    | 7, ⟨.leftBracket, _, _⟩ :: rest => do
      let (index, rest) ← expr ending fuel 0 rest
      let rest ← expect ending .rightBracket rest
      continued ending fuel level (.index left index) rest
    | _, ⟨.operator op, _, _⟩ :: rest =>
      if op.level = level then do
        let (right, rest) ← expr ending fuel (level + 1) rest
        continued ending fuel level (.binary op left right) rest
      else .ok (left, tokens)
    | _, _ => .ok (left, tokens)

def atom (ending : Fault) : Nat → List Lexeme → Except Fault (Expr × List Lexeme)
  | 0, tokens => stuck ending tokens
  | fuel + 1, tokens =>
    match tokens with
    | ⟨.number x, _, _⟩ :: rest => .ok (.number x, rest)
    | ⟨.true, _, _⟩ :: rest => .ok (.boolean true, rest)
    | ⟨.false, _, _⟩ :: rest => .ok (.boolean false, rest)
    | ⟨.null, _, _⟩ :: rest => .ok (.null, rest)
    | ⟨.string text, _, _⟩ :: rest => .ok (.string text, rest)
    | ⟨.name text, _, _⟩ :: rest => .ok (.identifier text, rest)
    | ⟨.leftBracket, _, _⟩ :: rest => do
      let (xs, rest) ← items ending fuel .rightBracket rest
      .ok (.array xs, rest)
    | ⟨.leftBrace, _, _⟩ :: rest => do
      let (ms, rest) ← members ending fuel rest
      .ok (.object ms, rest)
    | ⟨.leftParen, _, _⟩ :: rest => do
      let (e, rest) ← expr ending fuel 0 rest
      let rest ← expect ending .rightParen rest
      .ok (e, rest)
    | _ => stuck ending tokens

def items (ending : Fault) : Nat → Token → List Lexeme → Except Fault (List Expr × List Lexeme)
  | 0, _, tokens => stuck ending tokens
  | fuel + 1, close, tokens =>
    match tokens with
    | t :: rest =>
      if t.token == close then .ok ([], rest)
      else do
        let (x, tokens) ← expr ending fuel 0 tokens
        match tokens with
        | ⟨.comma, _, _⟩ :: rest => do
          let (xs, rest) ← items ending fuel close rest
          .ok (x :: xs, rest)
        | _ => do
          let rest ← expect ending close tokens
          .ok ([x], rest)
    | [] => stuck ending []

def members (ending : Fault) : Nat → List Lexeme → Except Fault (List (String × Expr) × List Lexeme)
  | 0, tokens => stuck ending tokens
  | fuel + 1, tokens =>
    match tokens with
    | ⟨.rightBrace, _, _⟩ :: rest => .ok ([], rest)
    | ⟨.name key, _, _⟩ :: rest | ⟨.string key, _, _⟩ :: rest => do
      let rest ← expect ending .colon rest
      let (x, tokens) ← expr ending fuel 0 rest
      match tokens with
      | ⟨.comma, _, _⟩ :: rest => do
        let (ms, rest) ← members ending fuel rest
        .ok ((key, x) :: ms, rest)
      | _ => do
        let rest ← expect ending .rightBrace tokens
        .ok ([(key, x)], rest)
    | _ => stuck ending tokens

end

end Parser

def parse (text : String) : Except Fault Expr := do
  let lexed := lex text
  let ending := lexed.fault.getD (.malformed lexed.last)
  let (e, rest) ← Parser.expr ending (12 * (lexed.lexemes.length + 2)) 0 lexed.lexemes
  match rest with
  | t :: _ => .error (.malformed t.start)
  | [] =>
    match lexed.fault with
    | some fault => .error fault
    | none => .ok e

end Turnstile.Filter
