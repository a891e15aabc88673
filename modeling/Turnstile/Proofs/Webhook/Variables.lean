import Mathlib.Data.List.Forall2
import Turnstile.Proofs.SortedMap
import Turnstile.Webhook.Auth
/-! Which secrets share an environment variable. Its name spells letters in upper case, and with
an underscore both what is neither letter nor digit and what stands between the parts. So parts
are told apart by their spelling only where it is clear at which underscore each ends. -/
namespace Turnstile

def WebhookAuth.secretRef : WebhookAuth → SecretRef
  | hmac ref _ _ => ref
  | bearer ref => ref
  | header _ ref => ref

namespace SecretSources

def spelling (c : Char) : Char := if c.isAlphanum then c.toUpper else '_'

/-- One letter in either case, one digit, or two characters that are neither. -/
def Alike (c d : Char) : Prop :=
  c.isAlphanum = d.isAlphanum ∧ (c.isAlphanum = true → c.toUpper = d.toUpper)

instance (c d : Char) : Decidable (Alike c d) := inferInstanceAs (Decidable (_ ∧ _))

def TextsAlike (s t : String) : Prop := List.Forall₂ Alike s.toList t.toList

instance (s t : String) : Decidable (TextsAlike s t) :=
  inferInstanceAs (Decidable (List.Forall₂ Alike s.toList t.toList))

def separators (text : String) : Nat := text.toList.countP fun c => !c.isAlphanum

def written (ns : String) (ref : SecretRef) : String := ns ++ "_" ++ ref.name ++ "_" ++ ref.key

theorem upperIsNoUnderscore {c : Char} (word : c.isAlphanum = true) : c.toUpper ≠ '_' := by
  intro underscore
  unfold Char.toUpper at underscore
  split at underscore
  · rename_i lower
    have value := congrArg (fun d : Char => d.val.toNat) underscore
    simp [UInt32.le_iff_toNat_le] at value lower
    omega
  · subst underscore
    revert word
    decide

theorem spellingIff {c d : Char} : spelling c = spelling d ↔ Alike c d := by
  unfold spelling Alike
  cases hc : c.isAlphanum <;> cases hd : d.isAlphanum
  · simp
  · simpa using (upperIsNoUnderscore hd).symm
  · simpa using upperIsNoUnderscore hc
  · simp

theorem spellingUnderscore {c : Char} : spelling c = '_' ↔ c.isAlphanum = false := by
  unfold spelling
  cases word : c.isAlphanum
  · simp
  · simpa using upperIsNoUnderscore word

theorem variablePartLetters (text : String) : (variablePart text).toList = text.toList.map spelling :=
  String.toList_map

theorem variablePartAppend (s t : String) : variablePart (s ++ t) = variablePart s ++ variablePart t := by
  apply String.toList_injective
  simp [variablePartLetters]

theorem variablePartIff {s t : String} : variablePart s = variablePart t ↔ TextsAlike s t := by
  rw [← String.toList_inj, variablePartLetters, variablePartLetters, TextsAlike]
  generalize s.toList = left
  generalize t.toList = right
  induction left generalizing right with
  | nil => cases right <;> simp
  | cons c cs ih =>
    cases right with
    | nil => simp
    | cons d ds => simp [spellingIff, ih]

theorem separatorsSpelt (text : String) : (variablePart text).toList.count '_' = separators text := by
  rw [variablePartLetters, separators, List.count, List.countP_map]
  refine List.countP_congr fun c _ => ?_
  simp [spellingUnderscore]

theorem cutAlike {c : Char} {first first' rest rest' : List Char}
    (same : first ++ c :: rest = first' ++ c :: rest') (count : first.count c = first'.count c) :
    first = first' ∧ rest = rest' := by
  induction first generalizing first' with
  | nil =>
    cases first' with
    | nil => simpa using same
    | cons d ds =>
      obtain ⟨rfl, -⟩ := List.cons.inj same
      simp at count
  | cons e es ih =>
    cases first' with
    | nil =>
      obtain ⟨rfl, -⟩ := List.cons.inj same
      simp at count
    | cons d ds =>
      obtain ⟨rfl, tails⟩ := List.cons.inj same
      obtain ⟨rfl, ends⟩ := ih tails (by simpa [List.count_cons] using count)
      exact ⟨rfl, ends⟩

theorem cutVariable {s s' t t' : String} (count : separators s = separators s') :
    variablePart s ++ "_" ++ t = variablePart s' ++ "_" ++ t' ↔ TextsAlike s s' ∧ t = t' := by
  constructor
  · intro same
    have letters := congrArg String.toList same
    simp only [String.toList_append, List.append_assoc] at letters
    rw [← separatorsSpelt, ← separatorsSpelt] at count
    obtain ⟨first, rest⟩ := cutAlike letters count
    exact ⟨variablePartIff.mp (String.toList_injective first), String.toList_injective rest⟩
  · rintro ⟨first, rfl⟩
    rw [variablePartIff.mpr first]

theorem variablePartUnderscore : variablePart "_" = "_" := by decide +kernel

theorem environmentNameWritten (ns : String) (ref : SecretRef) :
    environmentName ns ref = "TASKGATE_SECRET_" ++ variablePart (written ns ref) := by
  unfold environmentName written
  rw [variablePartAppend, variablePartAppend, variablePartAppend, variablePartAppend,
    variablePartUnderscore, ← String.append_assoc, ← String.append_assoc, ← String.append_assoc,
    ← String.append_assoc]

theorem environmentNameIff {ns ns' : String} {ref ref' : SecretRef} :
    environmentName ns ref = environmentName ns' ref' ↔
      TextsAlike (written ns ref) (written ns' ref') := by
  rw [environmentNameWritten, environmentNameWritten, String.append_right_inj, variablePartIff]

theorem environmentNamePartsIff {ns ns' : String} {ref ref' : SecretRef}
    (places : separators ns = separators ns') (names : separators ref.name = separators ref'.name) :
    environmentName ns ref = environmentName ns' ref' ↔
      TextsAlike ns ns' ∧ TextsAlike ref.name ref'.name ∧ TextsAlike ref.key ref'.key := by
  have parts (ns : String) (ref : SecretRef) : environmentName ns ref =
      "TASKGATE_SECRET_" ++
        (variablePart ns ++ "_" ++ (variablePart ref.name ++ "_" ++ variablePart ref.key)) := by
    unfold environmentName
    rw [← String.append_assoc, ← String.append_assoc, ← String.append_assoc, ← String.append_assoc]
  rw [parts, parts, String.append_right_inj, cutVariable places, cutVariable names, variablePartIff]

theorem lookupSet {sources : SecretSources} {env : TextMap} {name ns : String} {ref : SecretRef}
    (used : sources.environment = some env) (other : environmentName ns ref ≠ name)
    (value : String) :
    { sources with environment := some (env.insert name value) }.lookup? ns ref =
      sources.lookup? ns ref := by
  simp only [lookup?, used, Option.bind_some, SortedMap.getInsertOther env value other]
  rfl

theorem authenticateSame {sources sources' : SecretSources} {ns : String} {auth : WebhookAuth}
    (same : sources.lookup? ns auth.secretRef = sources'.lookup? ns auth.secretRef)
    (headers : Headers) (body : List UInt8) :
    Auth.authenticate sources ns auth headers body = Auth.authenticate sources' ns auth headers body := by
  cases auth <;> simp only [WebhookAuth.secretRef] at same <;>
    simp only [Auth.authenticate, Auth.secret, same]

/-- Two references share a variable just when they are spelt alike as a whole. Where neither their
namespaces nor their names differ in how many separators they hold, they do so part by part. A
variable that they do not share is of no use to a request that must know the other's secret. -/
theorem variablesShared (ns ns' : String) (ref ref' : SecretRef) :
    (environmentName ns ref = environmentName ns' ref' ↔
      TextsAlike (written ns ref) (written ns' ref')) ∧
    (separators ns = separators ns' → separators ref.name = separators ref'.name →
      (environmentName ns ref = environmentName ns' ref' ↔
        TextsAlike ns ns' ∧ TextsAlike ref.name ref'.name ∧ TextsAlike ref.key ref'.key)) ∧
    (environmentName ns ref ≠ environmentName ns' ref' →
      ∀ (sources : SecretSources) (env : TextMap) (value : String) (auth : WebhookAuth)
        (headers : Headers) (body : List UInt8),
        sources.environment = some env → auth.secretRef = ref' →
        Auth.authenticate
            { sources with environment := some (env.insert (environmentName ns ref) value) }
            ns' auth headers body =
          Auth.authenticate sources ns' auth headers body) := by
  refine ⟨environmentNameIff, environmentNamePartsIff, ?_⟩
  rintro apart sources env value auth headers body used rfl
  exact authenticateSame (lookupSet used apart.symm value) headers body

theorem teamsApart :
    separators "team-a" = separators "team-b" ∧
    environmentName "team-a" ⟨"git-hub", "token"⟩ ≠ environmentName "team-b" ⟨"git-hub", "token"⟩ ∧
    Auth.authenticate ⟨some (SortedMap.empty.insert
        (environmentName "team-a" ⟨"git-hub", "token"⟩) "s3cret"), .empty⟩
        "team-b" (.header "x-token" ⟨"git-hub", "token"⟩)
        (SortedMap.empty.insert "x-token" "s3cret") [] =
      .error (.secretUnavailable "team-b/git-hub#token") := by
  have shared := variablesShared "team-a" "team-b" ⟨"git-hub", "token"⟩ ⟨"git-hub", "token"⟩
  have places : separators "team-a" = separators "team-b" := by decide +kernel
  have apart : environmentName "team-a" ⟨"git-hub", "token"⟩ ≠
      environmentName "team-b" ⟨"git-hub", "token"⟩ :=
    fun same => absurd ((shared.2.1 places rfl).mp same).1 (by decide +kernel)
  refine ⟨places, apart, ?_⟩
  rw [shared.2.2 apart ⟨some .empty, .empty⟩ .empty "s3cret" (.header "x-token" ⟨"git-hub", "token"⟩)
    _ _ rfl rfl]
  decide +kernel

/-- Where a name ends is not spelt: the secret of one team lets a request in at another's. -/
theorem variableOfTwoTeams :
    environmentName "team" ⟨"a-hook", "token"⟩ = environmentName "team-a" ⟨"hook", "token"⟩ ∧
    Auth.authenticate ⟨some (SortedMap.empty.insert
        (environmentName "team" ⟨"a-hook", "token"⟩) "s3cret"), .empty⟩
        "team-a" (.header "x-token" ⟨"hook", "token"⟩)
        (SortedMap.empty.insert "x-token" "s3cret") [] = .ok () := by
  decide +kernel

end SecretSources
end Turnstile
