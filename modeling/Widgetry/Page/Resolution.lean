import Widgetry.Derived
import Widgetry.Page.Basic

/-!
# Resolved properties

A mounted widget works with its resolved properties: bindings are replaced by their values, which
the rules of the properties then bring into shape. Bindings see the widget itself and every mounted
widget by its name. A property that holds an action is left as it is written.
-/

namespace Widgetry.Page

/-- What bindings see of a widget: its properties as they are saved, its meta-state, and what is
derived from both. -/
def stateOf (page : Page) (w : Instance) : Json :=
  let state := page.snapshot w.id
  .obj ((w.properties.overlay state).overlay (derive w.kind w.properties state []))

/-- What bindings see of some widgets, by their names. -/
def statesOf (page : Page) (widgets : Table WidgetId Instance) : Table String Json :=
  .ofList (widgets.map fun entry => (entry.2.name, page.stateOf entry.2))

/-- What the bindings of a widget see. -/
def scopeOf (page : Page) (w : Instance) : Scope :=
  .ofWidget w.properties (page.snapshot w.id) (page.statesOf page.widgets)

/-- The value of a property of a widget in a scope. -/
def resolveValue (scope : Scope) (w : Instance) (property : String) (v : Json) : Drawing Json :=
  match v with
  | .str source =>
    let entry := w.kind.pane.entry? property
    if !isBinding source || entry.any PaneEntry.isTrigger then pure v
    else
      match entry.bind PaneEntry.rule with
      | some rule => return (← rule.validate w.properties (scope.value source)).parsed
      | none => pure (scope.value source)
  | v => pure v

/-- The resolved properties of a widget. -/
def resolve (page : Page) (w : Instance) : Drawing Fields :=
  let scope := page.scopeOf w
  w.properties.mapM fun (property, v) => do
    return (property, ← resolveValue scope w property v)

/-- The derived properties of a mounted widget, from its resolved properties. -/
def derive (page : Page) (w : Instance) : Drawing Fields := do
  let properties ← page.resolve w
  let others := page.widgets.erase w.id
  return Widgetry.derive w.kind properties (page.snapshot w.id) (page.statesOf others)

/-- The resolved properties of the widget with an id. -/
def resolved (id : WidgetId) : Attempt Fields := do
  let w ← widget id
  ExceptT.lift (drawing ((← get).resolve w))

/-- The derived properties of the widget with an id. -/
def derived (id : WidgetId) : Attempt Fields := do
  let w ← widget id
  ExceptT.lift (drawing ((← get).derive w))

end Widgetry.Page
