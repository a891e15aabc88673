import Mathlib.Data.List.TakeWhile
import Turnstile.Proofs.Store
import Turnstile.Proofs.Text.Hex
import Turnstile.Proofs.Webhook.Variables
/-! Which requests prove that they know a stored secret. The header of the scheme must be there, the
secret must be in the trigger's own namespace, and what the header holds must be the token, or
spell the code of the body under the secret. -/
namespace Turnstile

def SecretSources.ofStore (s : Store) : SecretSources := ⟨none, s.secrets.objects⟩

def Auth.AfterEquals (value text : String) : Prop :=
  ('=' ∉ value.toList ∧ text = value) ∨
    ∃ front : String, '=' ∉ front.toList ∧ value = front ++ "=" ++ text

namespace WebhookAuth

def headerName : WebhookAuth → String
  | hmac _ name _ => name
  | bearer _ => "authorization"
  | header name _ => name

/-- A value that shows a secret, where a text may spell a code in a given way. -/
def Shows (spells : List Char → List UInt8 → Prop) (auth : WebhookAuth) (secret value : String)
    (body : List UInt8) : Prop :=
  match auth with
  | hmac _ _ algorithm => ∃ text, Auth.AfterEquals value text ∧
    spells (Text.trim text).toList (Auth.mac algorithm (Auth.bytesOf secret) body)
  | bearer _ => value = "Bearer " ++ secret
  | header _ _ => value = secret

def Admits (spells : List Char → List UInt8 → Prop) (auth : WebhookAuth) (s : Store) (ns : String)
    (headers : Headers) (body : List UInt8) : Prop :=
  ∃ (value : String) (stored : Secret) (secret : String),
    headers.get? (auth.headerName.map Char.toLower) = some value ∧
    s.get? .secret ⟨ns, auth.secretRef.name⟩ = some stored ∧
    stored.data.get? auth.secretRef.key = some secret ∧ auth.Shows spells secret value body

end WebhookAuth

theorem Text.stripStartIff {start s rest : List Char} :
    stripStart? start s = some rest ↔ s = start ++ rest := by
  unfold stripStart?
  constructor
  · intro stripped
    split at stripped
    · rename_i starts
      obtain ⟨more, rfl⟩ := List.isPrefixOf_iff_prefix.mp starts
      rw [List.drop_left] at stripped
      rw [Option.some.inj stripped]
    · cases stripped
  · rintro rfl
    rw [if_pos (List.isPrefixOf_iff_prefix.mpr (List.prefix_append _ _)), List.drop_left]

namespace Auth

theorem afterEqualsIff {value text : String} :
    AfterEquals value text ↔ String.ofList (afterEquals value.toList) = text := by
  constructor
  · rintro (⟨none, rfl⟩ | ⟨front, before, rfl⟩)
    · have nothing : text.toList.dropWhile (· ≠ '=') = [] :=
        List.dropWhile_eq_nil_iff.mpr fun c inside => decide_eq_true fun same => none (same ▸ inside)
      rw [afterEquals, nothing, String.ofList_toList]
    · have rest : (front ++ "=" ++ text).toList.dropWhile (· ≠ '=') = '=' :: text.toList := by
        have skipped : ∀ c ∈ front.toList, decide (c ≠ '=') = true :=
          fun c inside => decide_eq_true fun same => before (same ▸ inside)
        rw [String.append_assoc, String.toList_append, String.toList_append,
          List.dropWhile_append_of_pos skipped]
        rfl
      rw [afterEquals, rest, String.ofList_toList]
  · rintro rfl
    unfold afterEquals
    have parts := List.takeWhile_append_dropWhile (p := fun c => decide (c ≠ '=')) (l := value.toList)
    cases rest : value.toList.dropWhile (· ≠ '=') with
    | nil =>
      refine .inl ⟨fun inside => ?_, String.ofList_toList⟩
      exact absurd rfl (of_decide_eq_true (List.dropWhile_eq_nil_iff.mp rest _ inside))
    | cons c after =>
      have first := List.head?_dropWhile_not (fun c => decide (c ≠ '=')) value.toList
      rw [rest] at first parts
      have sign : c = '=' := by simpa using first
      subst sign
      refine .inr ⟨String.ofList (value.toList.takeWhile (· ≠ '=')), fun inside => ?_, ?_⟩
      · rw [String.toList_ofList] at inside
        have different := List.mem_takeWhile_imp inside
        simp at different
      · apply String.toList_injective
        simpa using parts.symm

theorem macSome (a : HmacAlgorithm) (secret body : List UInt8) : mac a secret body ≠ [] := by
  have word (count n : Nat) : Digest.bigEndian (count + 1) n ≠ [] := by simp [Digest.bigEndian]
  cases a <;> simp [mac, hashOf, Digest.hmac, Digest.Sha1.hash, Digest.Sha1.digest, Digest.Sha256.hash,
    Digest.Sha256.digest, Digest.Sha512.hash, Digest.Sha512.digest, word]

theorem bindOk {α β : Type} {first : Except AuthError α} {rest : α → Except AuthError β} {b : β} :
    (first >>= rest) = .ok b ↔ ∃ a, first = .ok a ∧ rest a = .ok b := by
  cases first with
  | error => exact ⟨nofun, nofun⟩
  | ok a => exact ⟨fun h => ⟨a, rfl, h⟩, fun ⟨_, same, h⟩ => by cases same; exact h⟩

theorem headerOk {headers : Headers} {name value : String} :
    header headers name = .ok value ↔ headers.get? (name.map Char.toLower) = some value := by
  unfold header
  cases headers.get? (name.map Char.toLower) <;> simp

theorem secretOk {s : Store} {ns secret : String} {ref : SecretRef} :
    Auth.secret (.ofStore s) ns ref = .ok secret ↔
      ∃ stored : Secret, s.get? .secret ⟨ns, ref.name⟩ = some stored ∧ stored.data.get? ref.key = some secret := by
  have found : (SecretSources.ofStore s).lookup? ns ref =
    (s.get? .secret ⟨ns, ref.name⟩).bind fun stored : Secret => stored.data.get? ref.key := rfl
  rw [← Option.bind_eq_some_iff, ← found]
  unfold Auth.secret
  cases (SecretSources.ofStore s).lookup? ns ref <;> simp

theorem sameTextOk {expected given : String} : sameText expected given = .ok () ↔ given = expected := by
  unfold sameText
  split <;> simp_all [eq_comm]

theorem signatureOk {a : HmacAlgorithm} {secret body : List UInt8} {value : String} :
    verifySignature a secret body value = .ok () ↔ ∃ text, AfterEquals value text ∧
      Text.Hex.Spells (Text.Hex.unsigned (Text.trim text).toList) (mac a secret body) := by
  simp only [afterEqualsIff, exists_eq_left', ← Text.Hex.decodeIff (macSome a secret body)]
  change _ ↔ Text.Hex.decode? (signatureText value) = _
  unfold verifySignature
  cases Text.Hex.decode? (signatureText value) with
  | none => simp
  | some given =>
    dsimp only
    split <;> simp_all

section
variable {s : Store} {ns : String} {ref : SecretRef} {headers : Headers}

theorem bearerOk {value : String} :
    (match Text.stripStart? "Bearer ".toList value.toList with
      | none => .error .notBearer
      | some token => do
        let secret ← Auth.secret (.ofStore s) ns ref
        sameText secret (String.ofList token) : Except AuthError Unit) = .ok () ↔
      ∃ secret, Auth.secret (.ofStore s) ns ref = .ok secret ∧ value = "Bearer " ++ secret := by
  cases token : Text.stripStart? "Bearer ".toList value.toList with
  | none =>
    refine iff_of_false nofun ?_
    rintro ⟨secret, -, rfl⟩
    rw [String.toList_append, Text.stripStartIff.mpr rfl] at token
    cases token
  | some rest =>
    have whole : value = "Bearer " ++ String.ofList rest := by
      apply String.toList_injective
      rw [Text.stripStartIff.mp token]
      simp
    rw [bindOk]
    simp only [sameTextOk, whole, String.append_right_inj]

theorem presentedOk {name : String} {check : String → Except AuthError Unit}
    {shows : String → String → Prop}
    (shown : ∀ value, check value = .ok () ↔
      ∃ secret, Auth.secret (.ofStore s) ns ref = .ok secret ∧ shows secret value) :
    (header headers name >>= check) = .ok () ↔
      ∃ (value : String) (stored : Secret) (secret : String),
        headers.get? (name.map Char.toLower) = some value ∧
        s.get? .secret ⟨ns, ref.name⟩ = some stored ∧ stored.data.get? ref.key = some secret ∧
        shows secret value := by
  simp only [bindOk, headerOk, shown, secretOk]
  constructor
  · rintro ⟨value, presented, secret, ⟨stored, found, holds⟩, fits⟩
    exact ⟨value, stored, secret, presented, found, holds, fits⟩
  · rintro ⟨value, stored, secret, presented, found, holds, fits⟩
    exact ⟨value, presented, secret, ⟨stored, found, holds⟩, fits⟩

end

theorem authenticateOk {s : Store} {ns : String} {auth : WebhookAuth} {headers : Headers}
    {body : List UInt8} : authenticate (.ofStore s) ns auth headers body = .ok () ↔
      auth.Admits (fun text => Text.Hex.Spells (Text.Hex.unsigned text)) s ns headers body := by
  cases auth with
  | hmac ref name algorithm => exact presentedOk fun value => bindOk.trans (by simp only [signatureOk]; rfl)
  | bearer ref => exact presentedOk fun value => bearerOk
  | header name ref => exact presentedOk fun value => bindOk.trans (by simp only [sameTextOk]; rfl)

theorem trimmedFrom {s : String} {c : Char} (inside : c ∈ (Text.trim s).toList) : c ∈ s.toList := by
  rw [Text.trim, String.toList_ofList, Text.trimRight, List.mem_reverse] at inside
  have left := (List.dropWhile_sublist _).subset inside
  exact (List.dropWhile_sublist _).subset (List.mem_reverse.mp left)

theorem AfterEquals.within {value text : String} (after : AfterEquals value text) {c : Char}
    (inside : c ∈ text.toList) : c ∈ value.toList := by
  rcases after with ⟨-, rfl⟩ | ⟨front, -, rfl⟩
  · exact inside
  · simp [inside]

end Auth

theorem WebhookAuth.showsPlain {auth : WebhookAuth} {secret value : String} {body : List UInt8}
    (plain : ∀ ref name algorithm, auth = .hmac ref name algorithm → '+' ∉ value.toList) :
    auth.Shows (fun text => Text.Hex.Spells (Text.Hex.unsigned text)) secret value body ↔
      auth.Shows Text.Hex.Spells secret value body := by
  cases auth with
  | hmac ref name algorithm =>
    refine exists_congr fun text => and_congr_right fun after => ?_
    have unsigned : '+' ∉ (Text.trim text).toList :=
      fun inside => plain ref name algorithm rfl (after.within (Auth.trimmedFrom inside))
    dsimp only
    rw [Text.Hex.unsignedPlain unsigned]
  | bearer | header => rfl

/-- Where only stored secrets count, a request is let in exactly if the header of the scheme is there,
the secret is stored in the namespace, and the header shows it: as the token, or by
hexadecimal text of the code of the body, where a plus sign may stand for the zero that is the
first digit of a pair. Without such signs it must be hexadecimal text. Secrets of other
namespaces do not count. -/
theorem secretsAdmit (s : Store) (ns : String) (auth : WebhookAuth) (headers : Headers)
    (body : List UInt8) :
    (Auth.authenticate (.ofStore s) ns auth headers body = .ok () ↔
      auth.Admits (fun text => Text.Hex.Spells (Text.Hex.unsigned text)) s ns headers body) ∧
    ((∀ ref name algorithm value, auth = .hmac ref name algorithm →
        headers.get? (name.map Char.toLower) = some value → '+' ∉ value.toList) →
      (Auth.authenticate (.ofStore s) ns auth headers body = .ok () ↔
        auth.Admits Text.Hex.Spells s ns headers body)) ∧
    ∀ t : Store, (∀ name, t.get? .secret ⟨ns, name⟩ = s.get? .secret ⟨ns, name⟩) →
      Auth.authenticate (.ofStore t) ns auth headers body =
        Auth.authenticate (.ofStore s) ns auth headers body := by
  refine ⟨Auth.authenticateOk, fun plain => Auth.authenticateOk.trans ?_, fun t same => ?_⟩
  · refine exists_congr fun value => exists_congr fun stored => exists_congr fun secret => ?_
    refine and_congr_right fun presented => and_congr_right fun _ => and_congr_right fun _ => ?_
    refine WebhookAuth.showsPlain fun ref name algorithm scheme => ?_
    subst scheme
    exact plain ref name algorithm value rfl presented
  · refine SecretSources.authenticateSame ?_ headers body
    exact congrArg (fun o : Option Secret => o.bind fun stored => stored.data.get? auth.secretRef.key)
      (same auth.secretRef.name)

def hookSecret (ns value : String) : Secret :=
  ⟨Metadata.ofKey ⟨ns, "hook"⟩, SortedMap.empty.insert "token" value⟩

def keyed : Store := { Store.empty with secrets := Collection.empty.put (hookSecret "ns" "s3cret") }

def keyedTwice : Store := { keyed with secrets := keyed.secrets.put (hookSecret "team" "other") }

def hookScheme : WebhookAuth := .hmac ⟨"hook", "token"⟩ "X-Signature" .sha1

def signedBy (signature : String) : Headers := SortedMap.empty.insert "x-signature" signature

def hookCode : List UInt8 := [0xe7, 0xe0, 0x22, 0x52, 0x92, 0xf9, 0x75, 0xea, 0xb7, 0xd4,
  0x89, 0x99, 0xea, 0x52, 0x00, 0x20, 0xef, 0x91, 0xb1, 0x8d]

theorem hookCoded : Auth.mac .sha1 (Auth.bytesOf "s3cret") (Auth.bytesOf "\x7b\x7d") = hookCode := by
  decide +kernel

theorem loweredName : hookScheme.headerName.map Char.toLower = "x-signature" := by decide +kernel

theorem presentedBy {signature value : String}
    (presented : (signedBy signature).get? (hookScheme.headerName.map Char.toLower) = some value) :
    value = signature := by
  rw [loweredName, signedBy, SortedMap.getInsertSame] at presented
  exact (Option.some.inj presented).symm

theorem keyedAdmits {spells : List Char → List UInt8 → Prop} {signature : String}
    (spelt : spells (Auth.signatureText signature).toList hookCode) :
    hookScheme.Admits spells keyed "ns" (signedBy signature) (Auth.bytesOf "\x7b\x7d") := by
  refine ⟨signature, hookSecret "ns" "s3cret", "s3cret", ?_, ?_, by decide +kernel, _,
    Auth.afterEqualsIff.mpr rfl, ?_⟩
  · rw [loweredName]
    exact SortedMap.getInsertSame _ _ _
  · exact Collection.putSame (k := .secret) .empty (hookSecret "ns" "s3cret")
  · rw [hookCoded]
    exact spelt

theorem signatureAdmits :
    hookScheme.Admits Text.Hex.Spells keyed "ns"
      (signedBy "sha1=E7e0225292f975eab7d48999ea520020ef91b18d") (Auth.bytesOf "\x7b\x7d") ∧
    Auth.authenticate (.ofStore keyedTwice) "ns" hookScheme
      (signedBy "sha1=E7e0225292f975eab7d48999ea520020ef91b18d") (Auth.bytesOf "\x7b\x7d") = .ok () := by
  obtain ⟨-, plainly, elsewhere⟩ := secretsAdmit keyed "ns" hookScheme
    (signedBy "sha1=E7e0225292f975eab7d48999ea520020ef91b18d") (Auth.bytesOf "\x7b\x7d")
  have admits : hookScheme.Admits Text.Hex.Spells keyed "ns"
      (signedBy "sha1=E7e0225292f975eab7d48999ea520020ef91b18d") (Auth.bytesOf "\x7b\x7d") :=
    keyedAdmits (by decide +kernel)
  refine ⟨admits, (elsewhere keyedTwice fun name => ?_).trans ((plainly ?_).mpr admits)⟩
  · exact Collection.putOther _ fun same => absurd (congrArg Key.ns same) (show "ns" ≠ "team" by decide)
  · rintro ref name algorithm value scheme presented
    cases scheme
    rw [presentedBy presented]
    decide +kernel

/-- A plus sign is no digit, and the code is accepted with it all the same. -/
theorem signedZeroAdmitted :
    Auth.authenticate (.ofStore keyed) "ns" hookScheme
      (signedBy "sha1=e7e0225292f975eab7d48999ea52+020ef91b18d") (Auth.bytesOf "\x7b\x7d") = .ok () ∧
    ¬ hookScheme.Admits Text.Hex.Spells keyed "ns"
      (signedBy "sha1=e7e0225292f975eab7d48999ea52+020ef91b18d") (Auth.bytesOf "\x7b\x7d") := by
  refine ⟨Auth.authenticateOk.mpr (keyedAdmits (by decide +kernel)), ?_⟩
  rintro ⟨value, stored, secret, presented, found, holds, text, after, spells⟩
  rw [presentedBy presented] at after
  rw [← Auth.afterEqualsIff.mp after] at spells
  exact absurd (by decide +kernel) (Text.Hex.spellsPlain spells)

end Turnstile
