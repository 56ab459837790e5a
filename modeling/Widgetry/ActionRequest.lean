import Widgetry.Instance
import Widgetry.Trigger

/-!
# Requests for actions

A request holds everything that it takes to run an action that a property of a widget holds: the
widget, the property and its text, the event, and the meta-state of the widget at that time.
-/

namespace Widgetry

/-- A request to run an action. -/
structure ActionRequest where
  widget : WidgetId
  name : String
  property : String
  /-- The action, as it is written in the property. -/
  action : String
  event : TriggerEvent
  /-- The meta-state of the widget when the request was made. -/
  state : Fields

namespace ActionRequest

def toJson (r : ActionRequest) : Json :=
  .ofFields
    [("widgetId", some (.str r.widget.toText)),
      ("widgetName", some (.str r.name)),
      ("triggerProperty", some (.str r.property)),
      ("action", some (.str r.action)),
      ("event", some r.event.toJson),
      ("meta", some (.obj r.state))]

def ofJson? (v : Json) : Option ActionRequest := do
  let fields ← v.record? ["widgetId", "widgetName", "triggerProperty", "action", "event", "meta"]
  let widget ← Json.required? fields "widgetId" Instance.idOfJson?
  let name ← Json.required? fields "widgetName" Json.string?
  let property ← Json.required? fields "triggerProperty" Json.string?
  let action ← Json.required? fields "action" Json.string?
  let event ← Json.required? fields "event" TriggerEvent.ofJson?
  let state ← Json.required? fields "meta" Json.fields?
  some ⟨widget, name, property, action, event, state⟩

end ActionRequest

end Widgetry
