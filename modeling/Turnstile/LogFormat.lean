/-! How log lines are written. -/
namespace Turnstile

inductive LogFormat where
  | pretty | json
  deriving DecidableEq, Repr

structure UnknownLogFormat where
  name : String
  deriving DecidableEq, Repr

def UnknownLogFormat.message (e : UnknownLogFormat) : String :=
  let name := e.name
  s!"unknown log format '{name}' (expected pretty or json)"

namespace LogFormat

def text : LogFormat → String
  | pretty => "Pretty"
  | json => "Json"

def ofText (s : String) : Except UnknownLogFormat LogFormat :=
  let name := s.map Char.toLower
  match name with
  | "pretty" | "text" => .ok .pretty
  | "json" => .ok .json
  | _ => .error ⟨name⟩

end LogFormat
end Turnstile
