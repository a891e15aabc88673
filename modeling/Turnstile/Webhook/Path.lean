import Turnstile.Object.Key
import Turnstile.Text.Search
/-! Paths of webhook triggers: a namespace and a name with a slash between. -/
namespace Turnstile.Webhook

def pathPrefix : String := "/webhooks"

def cutAtSlash (s : List Char) : List Char × Option (List Char) :=
  match s.dropWhile (· ≠ '/') with
  | [] => (s, none)
  | _ :: rest => (s.takeWhile (· ≠ '/'), some rest)

def keyOfPath? (path : String) : Option Key :=
  match cutAtSlash (path.toList.dropWhile (· = '/')) with
  | (ns, some name) =>
    if ns.isEmpty || name.isEmpty || name.contains '/' then none
    else some ⟨String.ofList ns, String.ofList name⟩
  | _ => none

def url (base : String) (key : Key) : String :=
  Text.dropEnd '/' base ++ pathPrefix ++ "/" ++ key.ns ++ "/" ++ key.name

end Turnstile.Webhook
