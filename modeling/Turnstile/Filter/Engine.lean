import Turnstile.Filter.Parser
import Turnstile.Filter.Check
import Turnstile.Filter.Eval
/-! Filters ready for use, and the engine that keeps each one it compiled. -/
namespace Turnstile

inductive FilterError where
  | malformed (offset : Nat)
  | offBoundary
  | unknownVariable (name : String)
  | notBooleanProgram
  | evalFailed (cause : Filter.EvalError)
  | notBoolean (result : Json)
  deriving BEq, Repr

/-- What a parser would add after the offset is left out. -/
def FilterError.message : FilterError → String
  | malformed offset => s!"filter syntax error at offset {offset}"
  | offBoundary => "filter text cut inside a character"
  | unknownVariable name =>
    s!"filter references unknown variable '{name}' (only body and headers are available)"
  | notBooleanProgram => "filter can never produce a boolean"
  | evalFailed cause => "filter evaluation failed: " ++ cause.message
  | notBoolean result => "filter did not evaluate to a boolean: got " ++ result.compact

structure Filter where
  source : String
  expr : Filter.Expr
  deriving BEq, Repr

namespace Filter

def compile (source : String) : Except FilterError Filter :=
  match parse source with
  | .error (.malformed offset) => .error (.malformed offset)
  | .error .offBoundary => .error .offBoundary
  | .ok expr =>
    match expr.unknown? with
    | some name => .error (.unknownVariable name)
    | none => if expr.neverBoolean then .error .notBooleanProgram else .ok ⟨source, expr⟩

def evaluateIn (f : Filter) (context : Context) : Except FilterError Bool :=
  match f.expr.eval context with
  | .error cause => .error (.evalFailed cause)
  | .ok (.bool b) => .ok b
  | .ok result => .error (.notBoolean result)

def evaluate (f : Filter) (body headers : Json) : Except FilterError Bool :=
  f.evaluateIn (Context.ofRequest body headers)

end Filter

structure FilterEngine where
  cache : SortedMap String Filter
  deriving Repr

namespace FilterEngine

def empty : FilterEngine := ⟨.empty⟩

instance : Inhabited FilterEngine := ⟨empty⟩

def cached (engine : FilterEngine) : Nat := engine.cache.size

def compile (engine : FilterEngine) (source : String) : Except FilterError Filter × FilterEngine :=
  match engine.cache.get? source with
  | some f => (.ok f, engine)
  | none =>
    match Filter.compile source with
    | .error e => (.error e, engine)
    | .ok f => (.ok f, ⟨engine.cache.insert source f⟩)

def evaluate (engine : FilterEngine) (source : String) (body headers : Json) :
    Except FilterError Bool × FilterEngine :=
  if Text.isAllBlank source then (.ok true, engine)
  else
    match engine.compile source with
    | (.error e, engine) => (.error e, engine)
    | (.ok f, engine) => (f.evaluate body headers, engine)

end FilterEngine
end Turnstile
