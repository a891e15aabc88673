import Turnstile.Json.Reader
import Turnstile.Json.Writer
import Turnstile.Text.Blank
import Turnstile.Text.Letter
/-! The actions of a template: stages joined by a bar, each a value or a
function with its arguments, and their values on a payload. -/
namespace Turnstile.Template

inductive ActionFault where
  | empty
  | emptyStage
  | expectedFunction
  | functionAsArgument (name : String)
  | unterminatedString
  | badString
  | badNumber (word : String)
  | unexpected (word : String)
  deriving DecidableEq, Repr

inductive RenderError where
  | unclosed (offset : Nat)
  | unknownFunction (name : String)
  | malformedPath (path : String)
  | badAction (action : String) (fault : ActionFault)
  | wrongCount (function : String) (got : Nat)
  deriving DecidableEq, Repr

/-- What a reader would add about a bad literal is left out. -/
def ActionFault.message : ActionFault → String
  | empty => "empty action"
  | emptyStage => "empty pipeline stage"
  | expectedFunction => "expected a function name"
  | functionAsArgument name => s!"function '{name}' used as an argument"
  | unterminatedString => "unterminated string"
  | badString => "bad string literal"
  | badNumber word => s!"bad number '{word}'"
  | unexpected word => s!"unexpected '{word}'"

def RenderError.message : RenderError → String
  | unclosed offset => s!"unclosed action starting at offset {offset}"
  | unknownFunction name => s!"unknown function '{name}'"
  | malformedPath path => s!"malformed field path '{path}'"
  | badAction action fault => s!"bad action '{action}': " ++ fault.message
  | wrongCount function got =>
    if function = "default" then
      s!"{function}: expected a fallback and a value, got {got} arguments"
    else s!"{function}: expected 1 argument, got {got}"

inductive Term where
  | path (text : String)
  | literal (value : Json)
  | function (name : String)
  deriving BEq, Repr

structure Quoting where
  quote : Option Char
  escaped : Bool
  deriving DecidableEq, Repr

def Quoting.outside : Quoting := ⟨none, false⟩

def Quoting.next (q : Quoting) (c : Char) : Quoting :=
  match q.quote with
  | some quote =>
    if q.escaped then ⟨some quote, false⟩
    else if c = '\\' && quote = '"' then ⟨some quote, true⟩
    else if c = quote then .outside
    else q
  | none => if c = '"' || c = '\x60' then ⟨some c, false⟩ else q

def stagesFrom (q : Quoting) (stage : List Char) : List Char → Option (List (List Char))
  | [] => if q.quote.isNone then some [stage.reverse] else none
  | c :: rest =>
    if q.quote.isNone && c = '|' then (stagesFrom q [] rest).map (stage.reverse :: ·)
    else stagesFrom (q.next c) (c :: stage) rest

def stages (action : List Char) : Option (List (List Char)) := stagesFrom .outside [] action

def quotedRaw (escaped : Bool) : List Char → Option (List Char × List Char)
  | [] => none
  | c :: rest =>
    if escaped then (quotedRaw false rest).map fun (s, r) => (c :: s, r)
    else if c = '\\' then (quotedRaw true rest).map fun (s, r) => (c :: s, r)
    else if c = '"' then some ([], rest)
    else (quotedRaw false rest).map fun (s, r) => (c :: s, r)

def isWordEnd (c : Char) : Bool := Text.isBlank c

def classify (word : List Char) : Except ActionFault Term :=
  let text := String.ofList word
  match word with
  | '.' :: _ => .ok (.path text)
  | _ =>
    if text = "true" then .ok (.literal (.bool true))
    else if text = "false" then .ok (.literal (.bool false))
    else if text = "nil" then .ok (.literal .null)
    else if (word.head?.any fun c => c.isDigit || c = '-') then
      match Json.number word with
      | some (j, []) => .ok (.literal j)
      | _ => .error (.badNumber text)
    else if word.all fun c => Text.isAlphanumeric c || c = '_' then .ok (.function text)
    else .error (.unexpected text)

def nextTerm (s : List Char) : Except ActionFault (Option (Term × List Char)) :=
  match Text.trimLeft s with
  | [] => .ok none
  | '"' :: rest =>
    match quotedRaw false rest with
    | none => .error .unterminatedString
    | some (raw, rest) =>
      match Json.stringBody (raw ++ ['"']) with
      | some (value, []) => .ok (some (.literal (.string (String.ofList value)), rest))
      | _ => .error .badString
  | '\x60' :: rest =>
    match rest.dropWhile (· ≠ '\x60') with
    | [] => .error .unterminatedString
    | _ :: after =>
      .ok (some (.literal (.string (String.ofList (rest.takeWhile (· ≠ '\x60')))), after))
  | s =>
    match classify (s.takeWhile fun c => !isWordEnd c) with
    | .error e => .error e
    | .ok t => .ok (some (t, s.dropWhile fun c => !isWordEnd c))

def termsWithin : Nat → List Char → Except ActionFault (List Term)
  | 0, _ => .ok []
  | fuel + 1, s =>
    match nextTerm s with
    | .error e => .error e
    | .ok none => .ok []
    | .ok (some (t, rest)) =>
      match termsWithin fuel rest with
      | .error e => .error e
      | .ok ts => .ok (t :: ts)

/-- The terms of a stage; every term takes at least one character. -/
def terms (stage : List Char) : Except ActionFault (List Term) := termsWithin (stage.length + 1) stage

def toText : Json → String
  | .null => ""
  | .string s => s
  | j => j.compact

def isEmpty : Json → Bool
  | .null => true
  | .bool b => !b
  | .int n => n = 0
  | .float x => x == 0.0
  | .string s => s.isEmpty
  | .array items => items.isEmpty
  | .object members => members.isEmpty

def segmentsFrom (segment : List Char) : List Char → List (List Char)
  | [] => [segment.reverse]
  | c :: rest => if c = '.' then segment.reverse :: segmentsFrom [] rest else segmentsFrom (c :: segment) rest

def validSegment (s : List Char) : Bool :=
  !s.isEmpty && s.all fun c => Text.isAlphanumeric c || c = '_' || c = '-'

def elementNumber? (s : List Char) : Option Nat :=
  if s.isEmpty || !s.all Char.isDigit then none
  else
    let n := s.foldl (fun n c => n * 10 + Json.digitValue c) 0
    if n < UInt64.size then some n else none

def child? (j : Json) (segment : List Char) : Option Json :=
  match j with
  | .object _ => j.member? (String.ofList segment)
  | .array items => (elementNumber? segment).bind fun i => items[i]?
  | _ => none

def descend (j : Json) : List (List Char) → Json
  | [] => j
  | segment :: rest =>
    match child? j segment with
    | some next => descend next rest
    | none => .null

def lookup (data : Json) (path : String) : Except RenderError Json :=
  if path = "." then .ok data
  else
    match path.toList with
    | '.' :: rest =>
      let segments := segmentsFrom [] rest
      if segments.all validSegment then .ok (descend data segments) else .error (.malformedPath path)
    | _ => .error (.malformedPath path)

def evalTerm (action : String) (data : Json) : Term → Except RenderError Json
  | .path text => lookup data text
  | .literal value => .ok value
  | .function name => .error (.badAction action (.functionAsArgument name))

def evalTerms (action : String) (data : Json) : List Term → Except RenderError (List Json)
  | [] => .ok []
  | t :: rest =>
    match evalTerm action data t with
    | .error e => .error e
    | .ok j =>
      match evalTerms action data rest with
      | .error e => .error e
      | .ok js => .ok (j :: js)

def one (function : String) (f : Json → Json) : List Json → Except RenderError Json
  | [j] => .ok (f j)
  | arguments => .error (.wrongCount function arguments.length)

def call (name : String) (arguments : List Json) : Except RenderError Json :=
  match name with
  | "toJson" => one name (fun j => .string j.compact) arguments
  | "toPrettyJson" => one name (fun j => .string j.pretty) arguments
  | "quote" => one name (fun j => .string (Json.quote (toText j))) arguments
  | "default" =>
    match arguments with
    | [fallback, value] => .ok (if isEmpty value then fallback else value)
    | _ => .error (.wrongCount name arguments.length)
  | _ => .error (.unknownFunction name)

def evalStage (action : String) (data : Json) (piped : Option Json) :
    List Term → Except RenderError Json
  | [] => .error (.badAction action .emptyStage)
  | .function name :: arguments =>
    match evalTerms action data arguments with
    | .error e => .error e
    | .ok values => call name (values ++ piped.toList)
  | [t] =>
    if piped.isNone then evalTerm action data t else .error (.badAction action .expectedFunction)
  | _ => .error (.badAction action .expectedFunction)

def evalStages (action : String) (data : Json) (piped : Option Json) :
    List (List Char) → Except RenderError (Option Json)
  | [] => .ok piped
  | stage :: rest =>
    match terms (Text.trimRight (Text.trimLeft stage)) with
    | .error fault => .error (.badAction action fault)
    | .ok ts =>
      match evalStage action data piped ts with
      | .error e => .error e
      | .ok j => evalStages action data (some j) rest

def evalAction (action : List Char) (data : Json) : Except RenderError Json :=
  let text := String.ofList action
  if action.isEmpty then .error (.badAction text .empty)
  else
    match stages action with
    | none => .error (.badAction text .unterminatedString)
    | some parts =>
      match evalStages text data none parts with
      | .error e => .error e
      | .ok (some j) => .ok j
      | .ok none => .error (.badAction text .empty)

end Turnstile.Template
