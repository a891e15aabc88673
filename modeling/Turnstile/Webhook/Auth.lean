import Turnstile.Store.Basic
import Turnstile.Digest.Hmac
import Turnstile.Digest.Sha1
import Turnstile.Digest.Sha256
import Turnstile.Digest.Sha512
import Turnstile.Text.Hex
import Turnstile.Text.Search
/-! Who may trigger: requests prove that they know a secret of the trigger's
namespace. -/
namespace Turnstile

inductive AuthError where
  | missingHeader (name : String)
  | notHex
  | notBearer
  | secretUnavailable (label : String)
  | mismatch
  deriving DecidableEq, Repr

def AuthError.message : AuthError → String
  | missingHeader name => s!"missing header '{name}'"
  | notHex => "malformed credentials: signature is not hex"
  | notBearer => "malformed credentials: expected a Bearer token"
  | secretUnavailable label => "secret " ++ label ++ " unavailable"
  | mismatch => "credentials do not match"

abbrev Headers := TextMap

/-- Where secrets are looked up: the environment first, if it is used, then the store. -/
structure SecretSources where
  environment : Option TextMap
  stored : SortedMap Key Secret

namespace SecretSources

def count (s : SecretSources) : Nat := s.environment.toList.length + 1

def variablePart (text : String) : String :=
  text.map fun c => if c.isAlphanum then c.toUpper else '_'

def environmentName (ns : String) (ref : SecretRef) : String :=
  "TASKGATE_SECRET_" ++ variablePart ns ++ "_" ++ variablePart ref.name ++ "_" ++ variablePart ref.key

def inStore? (s : SecretSources) (ns : String) (ref : SecretRef) : Option String :=
  (s.stored.get? ⟨ns, ref.name⟩).bind fun secret => secret.data.get? ref.key

def lookup? (s : SecretSources) (ns : String) (ref : SecretRef) : Option String :=
  (s.environment.bind (·.get? (environmentName ns ref))).or (s.inStore? ns ref)

end SecretSources

namespace Auth

def hashOf : HmacAlgorithm → Digest.Hash
  | .sha1 => Digest.Sha1.hash
  | .sha256 => Digest.Sha256.hash
  | .sha512 => Digest.Sha512.hash

def mac (a : HmacAlgorithm) (secret body : List UInt8) : List UInt8 := Digest.hmac (hashOf a) secret body

def sign (a : HmacAlgorithm) (secret body : List UInt8) : String := Text.Hex.encode (mac a secret body)

def afterEquals (s : List Char) : List Char :=
  match s.dropWhile (· ≠ '=') with
  | [] => s
  | _ :: rest => rest

def signatureText (signature : String) : String :=
  Text.trim (String.ofList (afterEquals signature.toList))

def verifySignature (a : HmacAlgorithm) (secret body : List UInt8) (signature : String) :
    Except AuthError Unit :=
  match Text.Hex.decode? (signatureText signature) with
  | none => .error .notHex
  | some given => if given = mac a secret body then .ok () else .error .mismatch

def header (headers : Headers) (name : String) : Except AuthError String :=
  match headers.get? (name.map Char.toLower) with
  | some value => .ok value
  | none => .error (.missingHeader name)

def secret (sources : SecretSources) (ns : String) (ref : SecretRef) : Except AuthError String :=
  match sources.lookup? ns ref with
  | some s => .ok s
  | none => .error (.secretUnavailable (ns ++ "/" ++ ref.name ++ "#" ++ ref.key))

def sameText (expected given : String) : Except AuthError Unit :=
  if expected = given then .ok () else .error .mismatch

def bytesOf (s : String) : List UInt8 := s.toUTF8.toList

def authenticate (sources : SecretSources) (ns : String) (auth : WebhookAuth) (headers : Headers)
    (body : List UInt8) : Except AuthError Unit :=
  match auth with
  | .hmac ref name algorithm => do
    let signature ← header headers name
    let secret ← secret sources ns ref
    verifySignature algorithm (bytesOf secret) body signature
  | .bearer ref => do
    let value ← header headers "authorization"
    match Text.stripStart? "Bearer ".toList value.toList with
    | none => .error .notBearer
    | some token => do
      let secret ← secret sources ns ref
      sameText secret (String.ofList token)
  | .header name ref => do
    let value ← header headers name
    let secret ← secret sources ns ref
    sameText secret value

end Auth
end Turnstile
