import Widgetry.Page.Resolution

/-!
# Operations on a page

Widgets are mounted and unmounted, and their meta-state is reset or written key by key. A write may
come with a trigger: if the property that the trigger names holds an action, a request for it is
dispatched after the write, with the meta-state that the write has left.
-/

namespace Widgetry.Page

/-- Gives a mounted widget its first meta-state. If a property is a binding, the meta-state is
seeded once from the properties as they are saved, and then from the resolved ones. -/
def seed (w : Instance) : Change Unit := do
  modify fun page => { page with states := page.states.seed w }
  if w.properties.any fun entry => entry.2.isBinding then
    let properties ← drawing ((← get).resolve w)
    modify fun page => { page with states := page.states.seed { w with properties } }

/-- Mounts a saved widget, in place of one with the same id. -/
def mount (saved : Instance) : Change WidgetId := do
  let w ← drawing saved.load
  modify fun page => { page with widgets := page.widgets.insert w.id w }
  seed w
  return w.id

/-- Takes a widget and its meta-state away. -/
def unmount (id : WidgetId) : Change (Option Instance) := do
  let removed := (← get).widget? id
  modify fun page =>
    { page with widgets := page.widgets.erase id, states := page.states.erase id }
  return removed

/-- Gives a mounted widget its first meta-state again. -/
def reset (id : WidgetId) : Attempt Unit := do
  let w ← widget id
  ExceptT.lift (seed w)

/-- The value of a key of the meta-state of a mounted widget. -/
def read (id : WidgetId) (key : String) : Attempt Json := do
  let _ ← widget id
  return (← get).states.read id key

/-- Writes a key of the meta-state and gives the value that it held. -/
def write (id : WidgetId) (key : String) (v : Json) : Attempt Json := do
  match (← get).states.get? id with
  | some s =>
    modify fun page => { page with states := page.states.insert id (s.write key v) }
    return s.held key
  | none => throw (.notMounted id)

/-- The action that a property of a widget holds. A blank text is none. -/
def actionOf? (w : Instance) (property : String) : Option String :=
  (w.string? property).filter fun action => !Text.isBlankText action

/-- Dispatches a request for the action of a trigger, if there is one, it is not disabled, and it
can run. Says whether it did. -/
def execute (id : WidgetId) (trigger : Trigger) : Attempt Bool := do
  let w ← widget id
  let page ← get
  match actionOf? w trigger.property with
  | some action =>
    if page.config.dispatchActions && page.canRun then
      let request : ActionRequest :=
        ⟨id, w.name, trigger.property, action, trigger.event, page.snapshot id⟩
      set { page with requests := page.requests ++ [request] }
      return true
    else return false
  | none => return false

/-- What an update came to: the value that the key held before, and whether a request has been
dispatched. -/
structure Updated where
  previous : Json
  dispatched : Bool

/-- Writes a key of the meta-state, and then executes the action of a trigger. Properties and
derived keys are not written. -/
def update (id : WidgetId) (key : String) (v : Json) (trigger : Option Trigger) :
    Attempt Updated := do
  let w ← widget id
  let category := KeyCategory.of w.kind key
  if !category.isWritable then throw (.notState w.kind key category)
  let previous ← write id key v
  match trigger with
  | some trigger => return ⟨previous, ← execute id trigger⟩
  | none => return ⟨previous, false⟩

end Widgetry.Page
