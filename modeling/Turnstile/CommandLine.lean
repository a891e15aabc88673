import Turnstile.LogFormat
import Turnstile.Object.Metadata
/-! The command line. Two options may stand before the command or behind it; a
value is looked at when the next argument or the end shows that it is complete,
so that an argument which is not known is told before a bad value. -/
namespace Turnstile

inductive CommandLineError where
  | helpWanted
  | versionWanted
  | nothingGiven
  | unknownArgument
  | unknownCommand
  | malformedValue
  | emptyValue
  | needlessValue
  | repeated
  | missingArgument
  | missingCommand
  deriving DecidableEq, Repr

structure ServeOptions where
  config : Option String
  host : Option String
  port : Option UInt16
  manifests : Option String
  telemetry : Bool
  noEnvironmentSecrets : Bool
  simulatedRuntime : Option UInt64
  deriving DecidableEq, Repr

inductive Action where
  | serve (options : ServeOptions)
  | validate (path : String)
  deriving DecidableEq, Repr

structure CommandLine where
  verbosity : Nat
  logFormat : LogFormat
  action : Action
  deriving DecidableEq, Repr

namespace CommandLine

def directive (c : CommandLine) : String :=
  match c.verbosity with
  | 0 => "info"
  | 1 => "info,taskgate_api=debug,taskgate_core=debug,taskgate_infra=debug"
  | _ => "trace"

inductive Opt where
  | verbose | logFormat | help | version
  | config | host | port | manifests | otel | noEnvSecrets | simulateRuntime
  | path
  deriving DecidableEq, Repr

namespace Opt

def longName : Opt → String
  | verbose => "verbose"
  | logFormat => "log-format"
  | help => "help"
  | version => "version"
  | config => "config"
  | host => "host"
  | port => "port"
  | manifests => "manifests"
  | otel => "otel"
  | noEnvSecrets => "no-env-secrets"
  | simulateRuntime => "simulate-runtime"
  | path => ""

def shortName? : Opt → Option Char
  | verbose => some 'v'
  | help => some 'h'
  | version => some 'V'
  | config => some 'c'
  | port => some 'p'
  | manifests => some 'm'
  | _ => none

def takesValue : Opt → Bool
  | verbose | help | version | otel | noEnvSecrets => false
  | _ => true

def fromEnvironment? : Opt → Option String
  | logFormat => some "TASKGATE_LOG_FORMAT"
  | config => some "TASKGATE_CONFIG"
  | manifests => some "TASKGATE_MANIFESTS"
  | _ => none

end Opt

inductive Level where
  | top | serve | validate
  deriving DecidableEq, Repr

namespace Level

def everywhere : List Opt := [.verbose, .logFormat, .help, .version]

def options : Level → List Opt
  | top => everywhere
  | serve =>
    [.config, .host, .port, .manifests, .otel, .noEnvSecrets, .simulateRuntime] ++ everywhere
  | validate => everywhere

def long? (l : Level) (name : String) : Option Opt := l.options.find? fun o => o.longName == name
def short? (l : Level) (c : Char) : Option Opt := l.options.find? fun o => o.shortName? == some c

def ofName? : String → Option Level
  | "serve" => some serve
  | "validate" => some validate
  | _ => none

end Level

inductive Origin where
  | environment | given
  deriving DecidableEq, Repr

structure Setting where
  option : Opt
  value : String
  origin : Origin
  deriving DecidableEq, Repr

structure Reading where
  settings : List Setting
  count : Nat
  pending : Option (Opt × Option String)
  deriving DecidableEq, Repr

def decimal? (s : List Char) : Option Nat :=
  if s.isEmpty || !s.all Char.isDigit then none
  else some (s.foldl (fun n c => n * 10 + (c.toNat - 48)) 0)

def below? (bound : Nat) (s : String) : Option Nat :=
  let digits := match s.toList with
    | '+' :: rest => rest
    | s => s
  (decimal? digits).filter (· < bound)

def check (o : Opt) (value : String) : Except CommandLineError Unit :=
  match o with
  | .config | .manifests | .path => if value.isEmpty then .error .emptyValue else .ok ()
  | .port => if (below? UInt16.size value).isSome then .ok () else .error .malformedValue
  | .simulateRuntime => if (below? UInt64.size value).isSome then .ok () else .error .malformedValue
  | .logFormat =>
    match LogFormat.ofText value with
    | .ok _ => .ok ()
    | .error _ => .error .malformedValue
  | _ => .ok ()

namespace Reading

def empty : Reading := ⟨[], 0, none⟩

def setting? (r : Reading) (o : Opt) : Option Setting := r.settings.find? fun s => s.option == o

def isSet (r : Reading) (o : Opt) : Bool := (r.setting? o).isSome

def set (r : Reading) (o : Opt) (value : String) (origin : Origin) :
    Except CommandLineError Reading :=
  if r.isSet o then .error .repeated
  else
    match check o value with
    | .error e => .error e
    | .ok () => .ok { r with settings := r.settings ++ [⟨o, value, origin⟩] }

def complete (r : Reading) : Except CommandLineError Reading :=
  match r.pending with
  | none => .ok r
  | some (_, none) => .error .emptyValue
  | some (o, some value) => { r with pending := none }.set o value .given

def wait (r : Reading) (o : Opt) (value : Option String) : Except CommandLineError Reading := do
  let r ← r.complete
  .ok { r with pending := some (o, value) }

def attach (r : Reading) (o : Opt) (value : String) : Except CommandLineError Reading := do
  let r ← r.complete
  r.set o value .given

def maxCount : Nat := 255

def switch (r : Reading) (o : Opt) : Except CommandLineError Reading := do
  let r ← r.complete
  match o with
  | .help => .error .helpWanted
  | .version => .error .versionWanted
  | .verbose => .ok { r with count := Nat.min (r.count + 1) maxCount }
  | o => r.set o "true" .given

def long (l : Level) (r : Reading) (name : String) (value : Option String) :
    Except CommandLineError Reading :=
  match l.long? name with
  | none => .error .unknownArgument
  | some o =>
    match o.takesValue, value with
    | true, some v => r.attach o v
    | true, none => r.wait o none
    | false, some _ => .error .needlessValue
    | false, none => r.switch o

def short (l : Level) (r : Reading) : List Char → Except CommandLineError Reading
  | [] => .ok r
  | c :: rest =>
    match l.short? c with
    | none => .error .unknownArgument
    | some o =>
      if o.takesValue then
        match rest with
        | [] => r.wait o none
        | '=' :: value => r.attach o (String.ofList value)
        | value => r.attach o (String.ofList value)
      else
        match r.switch o with
        | .error e => .error e
        | .ok r => short l r rest

def fill (environment : TextMap) (r : Reading) : List Opt → Except CommandLineError Reading
  | [] => .ok r
  | o :: rest =>
    match o.fromEnvironment?.bind environment.get? with
    | some value =>
      if r.isSet o then fill environment r rest
      else
        match r.set o value .environment with
        | .error e => .error e
        | .ok r => fill environment r rest
    | none => fill environment r rest

def finish (environment : TextMap) (l : Level) (r : Reading) : Except CommandLineError Reading := do
  let r ← r.complete
  r.fill environment l.options

def isExpecting (r : Reading) : Bool :=
  match r.pending with
  | some (_, none) => true
  | _ => false

def value? (r : Reading) (o : Opt) : Option String := (r.setting? o).map (·.value)

end Reading

inductive Shape where
  | escape
  | long (name : String) (value : Option String)
  | short (options : List Char)
  | word
  deriving DecidableEq, Repr

def shape (argument : String) : Shape :=
  match argument.toList with
  | ['-', '-'] => .escape
  | '-' :: '-' :: rest =>
    let name := String.ofList (rest.takeWhile (· ≠ '='))
    match rest.dropWhile (· ≠ '=') with
    | [] => .long name none
    | _ :: value => .long name (some (String.ofList value))
  | '-' :: c :: rest => .short (c :: rest)
  | _ => .word

def isCommand (word : String) : Bool := (Level.ofName? word).isSome || word == "help"

def positional (l : Level) (r : Reading) (literal : Bool) (word : String) :
    Except CommandLineError Reading :=
  match l with
  | .top => .error (if literal && isCommand word then .unknownArgument else .unknownCommand)
  | .serve => .error .unknownArgument
  | .validate =>
    let taken := r.isSet .path || (r.pending.any fun p => p.1 == .path)
    if taken then .error .unknownArgument else r.wait .path (some word)

def argument (l : Level) (r : Reading) (literal : Bool) (word : String) :
    Except CommandLineError (Reading × Bool) :=
  if literal then (positional l r true word).map (·, true)
  else
    match shape word with
    | .escape => .ok (r, true)
    | .long name value => (r.long l name value).map (·, false)
    | .short options => (r.short l options).map (·, false)
    | .word =>
      if r.isExpecting then
        .ok ({ r with pending := r.pending.map fun p => (p.1, some word) }, false)
      else (positional l r false word).map (·, false)

def levelArguments (l : Level) (r : Reading) (literal : Bool) :
    List String → Except CommandLineError Reading
  | [] => .ok r
  | word :: rest =>
    match argument l r literal word with
    | .error e => .error e
    | .ok (r, literal) => levelArguments l r literal rest

def helpOn : List String → CommandLineError
  | [] => .helpWanted
  | [word] => if isCommand word then .helpWanted else .unknownCommand
  | _ => .unknownCommand

structure Parsed where
  top : Reading
  inner : Option (Level × Reading)
  deriving DecidableEq, Repr

def arguments (environment : TextMap) (r : Reading) (literal : Bool) :
    List String → Except CommandLineError Parsed
  | [] => .ok ⟨r, none⟩
  | word :: rest =>
    if !literal && !r.isExpecting && isCommand word then
      match Level.ofName? word with
      | none => .error (helpOn rest)
      | some l =>
        match levelArguments l .empty false rest with
        | .error e => .error e
        | .ok inner =>
          match inner.finish environment l with
          | .error e => .error e
          | .ok inner =>
            if l = .validate && !inner.isSet .path then .error .missingArgument
            else .ok ⟨r, some (l, inner)⟩
    else
      match argument .top r literal word with
      | .error e => .error e
      | .ok (r, literal) => arguments environment r literal rest

def serveOptions (r : Reading) : ServeOptions where
  config := r.value? .config
  host := r.value? .host
  port := ((r.value? .port).bind (below? UInt16.size)).map Nat.toUInt16
  manifests := r.value? .manifests
  telemetry := r.isSet .otel
  noEnvironmentSecrets := r.isSet .noEnvSecrets
  simulatedRuntime := ((r.value? .simulateRuntime).bind (below? UInt64.size)).map Nat.toUInt64

def chosenFormat (top inner : Reading) : LogFormat :=
  let setting : Option Setting := match top.setting? .logFormat, inner.setting? .logFormat with
    | some t, some i => some (if t.origin = .given && i.origin = .environment then t else i)
    | t, i => i.or t
  match setting.map fun s => LogFormat.ofText s.value with
  | some (.ok f) => f
  | _ => .pretty

def ofArguments (environment : TextMap) (words : List String) :
    Except CommandLineError CommandLine := do
  let parsed ← arguments environment .empty false words
  let top ← parsed.top.finish environment .top
  match parsed.inner with
  | none => .error (if top.count = 0 && top.settings.isEmpty then .nothingGiven else .missingCommand)
  | some (l, inner) =>
    .ok {
      verbosity := if inner.count = 0 then top.count else inner.count
      logFormat := chosenFormat top inner
      action := match l with
        | .validate => .validate ((inner.value? .path).getD "")
        | _ => .serve (serveOptions inner) }

end CommandLine
end Turnstile
