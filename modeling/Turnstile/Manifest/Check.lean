import Turnstile.Manifest.Basic
import Turnstile.Filter.Engine
/-! Checking manifests offline: every trigger's specification and filters. -/
namespace Turnstile

inductive Problem where
  | spec (fault : TriggerSpecError)
  | filter (source : String) (error : FilterError)
  deriving BEq, Repr

def Problem.message : Problem → String
  | spec fault => fault.message
  | filter source error => s!"filter '{source}': " ++ error.message

namespace Manifest

def filterProblems : List String → List Problem
  | [] => []
  | source :: rest =>
    if Text.isAllBlank source then filterProblems rest
    else
      match Filter.compile source with
      | .ok _ => filterProblems rest
      | .error e => .filter source e :: filterProblems rest

def triggerProblems (spec : TriggerSpec) : List Problem :=
  (spec.fault?.map Problem.spec).toList ++ filterProblems (spec.filter :: spec.rules.map (·.filter))

def problems (m : Manifest) : List Problem :=
  match m with
  | ⟨.trigger, t⟩ => triggerProblems t.spec
  | _ => []

def verdict (m : Manifest) : List String :=
  match m.problems with
  | [] => ["  ok    " ++ m.describe]
  | ps => ps.map fun p => "  error " ++ m.describe ++ ": " ++ p.message

/-- Checking cannot go on past a filter whose text is cut inside a character. -/
def breaksOff (m : Manifest) : Bool :=
  m.problems.any fun p =>
    match p with
    | .filter _ .offBoundary => true
    | _ => false

end Manifest

structure CheckReport where
  lines : List String
  exitCode : Nat
  deriving DecidableEq, Repr

namespace CheckReport

def countProblems (ms : List Manifest) : Nat := (ms.flatMap Manifest.problems).length

def ofManifests (ms : List Manifest) : CheckReport :=
  let whole := ms.takeWhile fun m => !m.breaksOff
  let lines := whole.flatMap Manifest.verdict
  if whole.length < ms.length then ⟨lines, 101⟩
  else
    let objects := ms.length
    let count := countProblems ms
    ⟨lines ++ ["", s!"  {objects} object(s), {count} problem(s)"], if count = 0 then 0 else 1⟩

def ofLoaded : Except ManifestError (List Manifest) → CheckReport
  | .error _ => ⟨[], 1⟩
  | .ok ms => ofManifests ms

end CheckReport
end Turnstile
