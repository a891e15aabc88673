import Turnstile.Manifest.Basic
import Turnstile.Yaml.Node
/-! Manifests from files. A file holds JSON if its name says so, a stream of YAML
documents otherwise; of a directory the files with a known ending are read, in
the order of their names. -/
namespace Turnstile

namespace Manifest

def ofDocuments (index : Nat) : List (Option Yaml) → Except ManifestError (List Manifest)
  | [] => .ok []
  | none :: _ => .error (.invalidYaml index)
  | some .null :: rest => ofDocuments (index + 1) rest
  | some y :: rest =>
    match ofJson? y.toJson with
    | none => .error (.badDocument index)
    | some m =>
      match ofDocuments (index + 1) rest with
      | .error e => .error e
      | .ok ms => .ok (m :: ms)

def ofYamlText (content : String) : Except ManifestError (List Manifest) :=
  ofDocuments 0 (Yaml.documents content)

def extension? (name : String) : Option String :=
  let reversed := name.toList.reverse
  match reversed.dropWhile (· ≠ '.') with
  | _ :: _ :: _ => some (String.ofList (reversed.takeWhile (· ≠ '.')).reverse)
  | _ => none

def isManifestFile (name : String) : Bool :=
  (extension? name).any fun e => e == "yaml" || e == "yml" || e == "json"

def fileName (path : String) : String :=
  String.ofList ((path.toList.reverse.takeWhile (· ≠ '/')).reverse)

def ofFile (path : String) (content : Option String) : Except ManifestError (List Manifest) :=
  match content with
  | none => .error (.unreadable path)
  | some content =>
    let parsed := if extension? (fileName path) = some "json" then ofJsonText content else ofYamlText content
    match parsed with
    | .error _ => .error (.malformed path)
    | .ok ms => .ok ms

end Manifest

inductive ManifestSource where
  | missing
  | file (content : Option String)
  | directory (files : List (String × Option String))
  deriving DecidableEq, Repr

namespace ManifestSource

def join (path name : String) : String :=
  if path.isEmpty || path.endsWith "/" then path ++ name else path ++ "/" ++ name

def loadFiles (path : String) : List (String × Option String) → Except ManifestError (List Manifest)
  | [] => .ok []
  | (name, content) :: rest =>
    match Manifest.ofFile (join path name) content with
    | .error e => .error e
    | .ok ms =>
      match loadFiles path rest with
      | .error e => .error e
      | .ok more => .ok (ms ++ more)

def load (path : String) : ManifestSource → Except ManifestError (List Manifest)
  | missing => .error (.missing path)
  | file content => Manifest.ofFile path content
  | directory files =>
    let chosen := files.filter fun f => Manifest.isManifestFile f.1
    loadFiles path (chosen.mergeSort fun a b => compare a.1 b.1 != .gt)

end ManifestSource
end Turnstile
