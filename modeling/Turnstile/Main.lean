import Turnstile.CommandLine
import Turnstile.Manifest.Check
import Turnstile.Manifest.Files
/-! The program. It checks manifests; there is no listener to serve webhooks on. -/
namespace Turnstile

def environmentVariables : List String :=
  ["TASKGATE_LOG_FORMAT", "TASKGATE_CONFIG", "TASKGATE_MANIFESTS"]

def readEnvironment : IO TextMap := do
  let found ← environmentVariables.filterMapM fun name => do
    return (← IO.getEnv name).map (name, ·)
  return SortedMap.ofList found

def readText? (path : String) : IO (Option String) := do
  try return some (← IO.FS.readFile path)
  catch _ => return none

def readSource (path : String) : IO ManifestSource := do
  let place := (← IO.currentDir) / path
  if ← place.isDir then
    let files ← (← place.readDir).toList.filterMapM fun entry => do
      if (← entry.path.symlinkMetadata).type == .file then
        return some (entry.fileName, ← readText? (ManifestSource.join path entry.fileName))
      else return none
    return .directory files
  else if ← place.pathExists then return .file (← readText? path)
  else return .missing

def CommandLineError.isRequest : CommandLineError → Bool
  | helpWanted | versionWanted => true
  | _ => false

def usage : String :=
  "usage: [-v] [--log-format pretty|json] serve [OPTIONS]\n       [-v] [--log-format pretty|json] validate PATH"

def check (path : String) : IO UInt32 := do
  let loaded := (← readSource path).load path
  let report := CheckReport.ofLoaded loaded
  for line in report.lines do IO.println line
  match loaded with
  | .error e => IO.eprintln ("Error: " ++ e.message)
  | .ok _ => if report.exitCode ≠ 0 then IO.eprintln ("Error: problems found in " ++ path)
  return report.exitCode.toUInt32

end Turnstile

open Turnstile in
def main (words : List String) : IO UInt32 := do
  match CommandLine.ofArguments (← readEnvironment) words with
  | .ok c =>
    match c.action with
    | .validate path => check path
    | .serve _ =>
      IO.eprintln "Error: there is no listener"
      return 1
  | .error e =>
    if e.isRequest then
      IO.println usage
      return 0
    else
      IO.eprintln usage
      return 2
