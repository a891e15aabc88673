import Turnstile.Store.Kind
/-! The object store. Every write takes a fresh version from one counter, also
one that then fails; a write that carries a version succeeds only on the object
that version was given to. A collection keeps the changes of its objects in
order, and a watcher is a place among them. -/
namespace Turnstile
open Std

inductive StoreError where
  | notFound (kind : Kind) (key : String)
  | alreadyExists (kind : Kind) (key : String)
  | conflict (kind : Kind) (key : String) (cause : String)
  | unavailable (cause : String)
  | invalid (cause : String)
  deriving DecidableEq, Repr

namespace StoreError

def message : StoreError → String
  | notFound kind key => kind.text ++ " " ++ key ++ " not found"
  | alreadyExists kind key => kind.text ++ " " ++ key ++ " already exists"
  | conflict kind key cause => "conflict updating " ++ kind.text ++ " " ++ key ++ ": " ++ cause
  | unavailable cause => "store unavailable: " ++ cause
  | invalid cause => "invalid object: " ++ cause

def isTransient : StoreError → Bool
  | conflict .. | unavailable _ => true
  | _ => false

def isNotFound : StoreError → Bool
  | notFound .. => true
  | _ => false

def isConflict : StoreError → Bool
  | conflict .. => true
  | _ => false

end StoreError

inductive Event (k : Kind) where
  | applied (object : k.Object)
  | deleted (object : k.Object)

namespace Event

def object {k : Kind} : Event k → k.Object
  | applied o => o
  | deleted o => o

def key {k : Kind} (e : Event k) : Key := k.key e.object

end Event

structure Collection (k : Kind) where
  objects : SortedMap Key k.Object
  events : Array (Event k)
  keyed : ∀ {key o}, objects.get? key = some o → k.key o = key

inductive Notice (k : Kind) where
  | event (e : Event k)
  | lagged

namespace Collection

variable {k : Kind}

def empty : Collection k := ⟨.empty, #[], nofun⟩

/-- A watcher that is further behind than this loses the oldest changes. -/
def retained : Nat := 1024

def notice? (c : Collection k) (seen : Nat) : Option (Notice k × Nat) :=
  if seen + retained < c.events.size then some (.lagged, c.events.size - retained)
  else (c.events[seen]?).map fun e => (.event e, seen + 1)

def list (c : Collection k) (selector : Selector) : List k.Object :=
  c.objects.values.filter fun o => selector.matchesMetadata (k.metadata o)

def put (c : Collection k) (o : k.Object) : Collection k where
  objects := c.objects.insert (k.key o) o
  events := c.events.push (.applied o)
  keyed {key stored} found := by
    rw [SortedMap.getInsert] at found
    split at found
    · rename_i same
      cases found
      exact (LawfulEqOrd.eq_of_compare same).symm
    · exact c.keyed found

def create (c : Collection k) (version : UInt64) (now : Instant) (o : k.Object) :
    Except StoreError k.Object × Collection k :=
  let m := k.metadata o
  if m.name.isEmpty || m.ns.isEmpty then
    (.error (.invalid (k.text ++ " requires a namespace and a name")), c)
  else if c.objects.contains m.key then (.error (.alreadyExists k m.key.text), c)
  else
    let stored := k.withMetadata o
      { m with
        uid := Uid.ofNat version.toNat
        resourceVersion := version
        generation := 1
        creationTimestamp := some (m.creationTimestamp.getD now) }
    (.ok stored, c.put stored)

/-- A later write; version 0 is written whatever is stored. -/
def replace (c : Collection k) (version : UInt64) (growth : UInt64)
    (merge : (stored incoming : k.Object) → k.Object) (o : k.Object) :
    Except StoreError k.Object × Collection k :=
  let m := k.metadata o
  match c.objects.get? m.key with
  | none => (.error (.notFound k m.key.text), c)
  | some current =>
    let old := k.metadata current
    if m.resourceVersion ≠ 0 && m.resourceVersion ≠ old.resourceVersion then
      (.error (.conflict k m.key.text
        s!"resource version {m.resourceVersion.toNat} is stale (stored {old.resourceVersion.toNat})"), c)
    else
      let next := merge current o
      let stored := k.withMetadata next
        { k.metadata next with
          uid := old.uid
          creationTimestamp := old.creationTimestamp
          resourceVersion := version
          generation := old.generation + growth }
      (.ok stored, c.put stored)

def drop (c : Collection k) (key : Key) (o : k.Object) : Collection k where
  objects := c.objects.erase key
  events := c.events.push (.deleted o)
  keyed {_ stored} found := by
    rw [SortedMap.getErase] at found
    split at found
    · cases found
    · exact c.keyed found

def delete (c : Collection k) (key : Key) : Bool × Collection k :=
  match c.objects.get? key with
  | none => (false, c)
  | some o => (true, c.drop key o)

end Collection

structure Store where
  version : UInt64
  tasks : Collection .task
  agents : Collection .agent
  templates : Collection .template
  triggers : Collection .trigger
  secrets : Collection .secret

namespace Store

def empty : Store := ⟨0, .empty, .empty, .empty, .empty, .empty⟩

instance : Inhabited Store := ⟨empty⟩

def collection (s : Store) : (k : Kind) → Collection k
  | .task => s.tasks
  | .agent => s.agents
  | .template => s.templates
  | .trigger => s.triggers
  | .secret => s.secrets

def withCollection (s : Store) : (k : Kind) → Collection k → Store
  | .task, c => { s with tasks := c }
  | .agent, c => { s with agents := c }
  | .template, c => { s with templates := c }
  | .trigger, c => { s with triggers := c }
  | .secret, c => { s with secrets := c }

@[simp] theorem collectionSame (s : Store) (k : Kind) (c : Collection k) :
    (s.withCollection k c).collection k = c := by
  cases k <;> rfl

theorem collectionOther (s : Store) {j k : Kind} (c : Collection k) (h : j ≠ k) :
    (s.withCollection k c).collection j = s.collection j := by
  cases j <;> cases k <;> first | rfl | exact absurd rfl h

def get? (s : Store) (k : Kind) (key : Key) : Option k.Object := (s.collection k).objects.get? key

def list (s : Store) (k : Kind) (selector : Selector) : List k.Object :=
  (s.collection k).list selector

def write {α : Type} (s : Store) (k : Kind) (f : UInt64 → Collection k → α × Collection k) : α × Store :=
  let version := s.version + 1
  let (a, c) := f version (s.collection k)
  (a, { s with version := version }.withCollection k c)

def create (s : Store) (now : Instant) (k : Kind) (o : k.Object) : Except StoreError k.Object × Store :=
  s.write k fun version c => c.create version now o

def update (s : Store) (k : Kind) (o : k.Object) : Except StoreError k.Object × Store :=
  s.write k fun version c => c.replace version 1 k.keepStatus o

def updateStatus (s : Store) (k : Kind) (o : k.Object) : Except StoreError k.Object × Store :=
  s.write k fun version c => c.replace version 0 k.takeStatus o

def delete (s : Store) (k : Kind) (key : Key) : Bool × Store :=
  let (deleted, c) := (s.collection k).delete key
  (deleted, s.withCollection k c)

def size (s : Store) : Nat :=
  s.tasks.objects.size + s.agents.objects.size + s.templates.objects.size
    + s.triggers.objects.size + s.secrets.objects.size

end Store
end Turnstile
