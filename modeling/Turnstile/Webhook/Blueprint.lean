import Turnstile.Template.Render
import Turnstile.Trigger.Basic
/-! The specification that a blueprint gives on a payload. -/
namespace Turnstile.TaskBlueprint

def renderContexts (data : Json) : List ContextItem → Except Template.RenderError (List ContextItem)
  | [] => .ok []
  | item :: rest =>
    match Template.render item.value data with
    | .error e => .error e
    | .ok value =>
      match renderContexts data rest with
      | .error e => .error e
      | .ok items => .ok ({ item with value } :: items)

def render (b : TaskBlueprint) (data : Json) : Except Template.RenderError TaskSpec :=
  match renderContexts data b.contexts with
  | .error e => .error e
  | .ok contexts =>
    match Template.render b.description data with
    | .error e => .error e
    | .ok description =>
      .ok {
        description
        agentRef := b.agentRef
        contexts
        outputs := b.outputs
        templateRef := b.templateRef
        retryPolicy := none }

end Turnstile.TaskBlueprint
