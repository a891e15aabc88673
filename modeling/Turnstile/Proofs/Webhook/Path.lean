import Mathlib.Data.List.TakeWhile
import Turnstile.Controller.Triggers
import Turnstile.Proofs.Store
import Turnstile.Proofs.Webhook.Registry
import Turnstile.Proofs.Webhook.Variables
/-! Where triggers are reached. A path is read as a key at the one slash it may hold behind those
it begins with, so that the URL of a trigger leads back to it just where neither its namespace nor
its name holds a slash. -/
namespace Turnstile

/-- Neither part holds a slash that could be taken for the one between them. -/
def Key.Plain (k : Key) : Prop := '/' ∉ k.ns.toList ∧ '/' ∉ k.name.toList

instance (k : Key) : Decidable k.Plain := inferInstanceAs (Decidable (_ ∧ _))

theorem Key.textChars (k : Key) : k.text.toList = k.ns.toList ++ '/' :: k.name.toList := by
  simp [Key.text]

theorem Key.Plain.textIff {a b : Key} (plain : a.Plain) : b.text = a.text ↔ b = a := by
  refine ⟨fun same => ?_, congrArg Key.text⟩
  have letters := congrArg String.toList same
  rw [Key.textChars, Key.textChars] at letters
  have slashes := congrArg (List.count '/') letters
  simp only [List.count_append, List.count_cons_self, List.count_eq_zero_of_not_mem plain.1,
    List.count_eq_zero_of_not_mem plain.2] at slashes
  have first : b.ns.toList.count '/' = a.ns.toList.count '/' := by
    rw [List.count_eq_zero_of_not_mem plain.1]
    omega
  obtain ⟨home, own⟩ := SecretSources.cutAlike letters first
  cases a
  cases b
  exact congrArg₂ Key.mk (String.toList_injective home) (String.toList_injective own)

namespace Webhook

theorem cutAtSlashIff {s ns name : List Char} :
    cutAtSlash s = (ns, some name) ↔ '/' ∉ ns ∧ s = ns ++ '/' :: name := by
  constructor
  · intro cut
    unfold cutAtSlash at cut
    split at cut
    · cases cut
    · rename_i c rest tail
      obtain ⟨rfl, found⟩ := Prod.mk.inj cut
      cases found
      have slash : c = '/' := by
        have first := List.head?_dropWhile_not (fun c => decide (c ≠ '/')) s
        rw [tail] at first
        simpa using first
      refine ⟨fun inside => by simpa using List.mem_takeWhile_imp inside, ?_⟩
      subst slash
      rw [← tail, List.takeWhile_append_dropWhile]
  · rintro ⟨none, rfl⟩
    have before : ∀ c ∈ ns, decide (c ≠ '/') = true :=
      fun c inside => decide_eq_true fun same => none (same ▸ inside)
    unfold cutAtSlash
    rw [List.dropWhile_append_of_pos before, List.takeWhile_append_of_pos before]
    simp

theorem slashesIff {s rest : List Char} (front : rest.head? ≠ some '/') :
    s.dropWhile (· = '/') = rest ↔ ∃ count, s = List.replicate count '/' ++ rest := by
  constructor
  · rintro rfl
    refine ⟨(s.takeWhile (· = '/')).length, ?_⟩
    have all : s.takeWhile (· = '/') = List.replicate (s.takeWhile (· = '/')).length '/' :=
      List.eq_replicate_iff.mpr ⟨rfl, fun c inside => by simpa using List.mem_takeWhile_imp inside⟩
    rw [← all, List.takeWhile_append_dropWhile]
  · rintro ⟨count, rfl⟩
    rw [List.dropWhile_append_of_pos fun c inside => decide_eq_true (List.eq_of_mem_replicate inside)]
    cases rest with
    | nil => rfl
    | cons c tail => exact List.dropWhile_cons_of_neg (by simpa using front)

theorem keyOfPathIff {path : String} {key : Key} :
    keyOfPath? path = some key ↔ key.Plain ∧ key.ns ≠ "" ∧ key.name ≠ "" ∧
      ∃ count, path.toList = List.replicate count '/' ++ key.text.toList := by
  have started (plain : key.Plain) (home : key.ns ≠ "") : key.text.toList.head? ≠ some '/' := by
    rw [Key.textChars]
    cases letters : key.ns.toList with
    | nil => exact absurd (String.toList_eq_nil_iff.mp letters) home
    | cons c rest =>
      rintro slash
      cases slash
      exact plain.1 (letters ▸ List.mem_cons_self)
  unfold keyOfPath?
  constructor
  · intro read
    split at read
    · rename_i ns name cut
      split at read
      · cases read
      · rename_i sound
        cases read
        obtain ⟨first, parts⟩ := cutAtSlashIff.mp cut
        have ⟨⟨home, own⟩, second⟩ : (ns ≠ [] ∧ name ≠ []) ∧ '/' ∉ name := by
          simpa [not_or] using sound
        have plain : Key.Plain ⟨String.ofList ns, String.ofList name⟩ := by
          simpa [Key.Plain] using ⟨first, second⟩
        have home' : String.ofList ns ≠ "" := by simpa using home
        refine ⟨plain, home', by simpa using own, (slashesIff (started plain home')).mp ?_⟩
        rw [parts, Key.textChars]
        simp
    · cases read
  · rintro ⟨plain, home, own, behind⟩
    have parts := (slashesIff (started plain home)).mpr behind
    rw [Key.textChars] at parts
    rw [cutAtSlashIff.mpr ⟨plain.1, parts⟩]
    simp [home, own, plain.2]

theorem keyReturns {key : Key} (home : key.ns ≠ "") (own : key.name ≠ "") :
    keyOfPath? key.text = some key ↔ key.Plain :=
  ⟨fun read => (keyOfPathIff.mp read).1, fun plain => keyOfPathIff.mpr ⟨plain, home, own, 0, rfl⟩⟩

theorem urlText (base : String) (key : Key) :
    url base key = Text.dropEnd '/' base ++ "/webhooks/" ++ key.text := by
  have between : "/webhooks/" = pathPrefix ++ "/" := by decide +kernel
  simp only [url, Key.text, between, String.append_assoc]

theorem urlIff {base : String} {a b : Key} : url base a = url base b ↔ a.text = b.text := by
  rw [urlText, urlText, String.append_right_inj]

/-- A trigger that the store takes and the registry serves is found by the path in its URL exactly
if its key is plain, and then no other key has that URL. Of keys that are not plain, those have the
same URL whose texts are the same. -/
theorem publishedReached {s : Store} {now : Instant} {t stored : WebhookTrigger} {r : Registry}
    (base : String) (accepted : (s.create now .trigger t).1 = .ok stored)
    (served : (r.register stored).1 = .ok ()) :
    ∃ path, url base t.key = Text.dropEnd '/' base ++ "/webhooks/" ++ path ∧
      (r.register stored).2.get? t.key = some stored ∧
      (keyOfPath? path = some t.key ↔ t.key.Plain) ∧
      (t.key.Plain → ∀ other, url base other = url base t.key → other = t.key) ∧
      ∀ other, url base other = url base t.key ↔ other.text = t.key.text := by
  obtain ⟨rfl, home, own⟩ := Collection.createNamed (c := s.triggers) accepted
  exact ⟨t.key.text, urlText base t.key, Registry.registerServes served, keyReturns home own,
    fun plain _ same => plain.textIff.mp (urlIff.mp same), fun _ => urlIff⟩

def hookAt (key : Key) : WebhookTrigger :=
  ⟨.ofKey key, ⟨none, "", .allow, some ⟨"", none, [], [], none, .empty⟩, []⟩, .fresh⟩

theorem pullsReached :
    ∃ (stored : WebhookTrigger) (path : String),
      (Store.empty.create default .trigger (hookAt ⟨"team-a", "pulls"⟩)).1 = .ok stored ∧
      (Registry.empty.register stored).1 = .ok () ∧
      url "https://hooks//" ⟨"team-a", "pulls"⟩ = "https://hooks/webhooks/" ++ path ∧
      (Registry.empty.register stored).2.get? ⟨"team-a", "pulls"⟩ = some stored ∧
      keyOfPath? path = some ⟨"team-a", "pulls"⟩ ∧
      ∀ other, url "https://hooks//" other = url "https://hooks//" ⟨"team-a", "pulls"⟩ →
        other = ⟨"team-a", "pulls"⟩ := by
  have accepted : (Store.empty.create default .trigger (hookAt ⟨"team-a", "pulls"⟩)).1 = .ok _ := rfl
  have plain : Key.Plain ⟨"team-a", "pulls"⟩ := by decide +kernel
  obtain ⟨path, address, found, reads, alone, -⟩ :=
    publishedReached (r := .empty) "https://hooks//" accepted rfl
  exact ⟨_, path, accepted, rfl, address.trans (congrArg (· ++ path) (by decide +kernel)), found,
    reads.mpr plain, alone plain⟩

/-- Two triggers that are served side by side, at one URL that leads to neither. -/
theorem slashedUnreached :
    ∃ first second : WebhookTrigger,
      (Store.empty.create default .trigger (hookAt ⟨"team", "pulls/new"⟩)).1 = .ok first ∧
      ((Store.empty.create default .trigger (hookAt ⟨"team", "pulls/new"⟩)).2.create default .trigger
        (hookAt ⟨"team/pulls", "new"⟩)).1 = .ok second ∧
      ((Registry.empty.register first).2.register second).2.get? ⟨"team", "pulls/new"⟩ = some first ∧
      ((Registry.empty.register first).2.register second).2.get? ⟨"team/pulls", "new"⟩ = some second ∧
      url "https://hooks" ⟨"team", "pulls/new"⟩ = "https://hooks/webhooks/team/pulls/new" ∧
      url "https://hooks" ⟨"team/pulls", "new"⟩ = "https://hooks/webhooks/team/pulls/new" ∧
      keyOfPath? "team/pulls/new" = none := by
  refine ⟨_, _, rfl, rfl, ?_⟩
  decide +kernel

end Webhook
end Turnstile
