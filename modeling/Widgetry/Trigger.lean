import Widgetry.Json.Record

/-!
# Triggers

A trigger says that something has happened to a widget that an action may be bound to: it names
the property that holds the action, and the event.
-/

namespace Widgetry

/-- What can happen to a widget. -/
inductive EventKind where
  | textChange
  | submit
  | iframeUrlChanged
  | iframeMessageReceived
  | tabChange
deriving DecidableEq, Inhabited

namespace EventKind

def all : List EventKind :=
  [textChange, submit, iframeUrlChanged, iframeMessageReceived, tabChange]

/-- The name of the kind. -/
def name : EventKind → String
  | textChange => "ON_TEXT_CHANGE"
  | submit => "ON_SUBMIT"
  | iframeUrlChanged => "ON_IFRAME_URL_CHANGED"
  | iframeMessageReceived => "ON_IFRAME_MESSAGE_RECEIVED"
  | tabChange => "ON_TAB_CHANGE"

/-- The kind of a name. -/
def ofName? (name : String) : Option EventKind :=
  all.find? fun kind => kind.name = name

theorem ofName?_name (kind : EventKind) : ofName? kind.name = some kind := by
  cases kind <;> rfl

end EventKind

/-- An event, with data if it has some. -/
structure TriggerEvent where
  kind : EventKind
  payload : Option Json := none

/-- A property that may hold an action, and the event that happened. -/
structure Trigger where
  property : String
  event : TriggerEvent

namespace TriggerEvent

/-- The event with data. -/
def withPayload (event : TriggerEvent) (payload : Json) : TriggerEvent :=
  { event with payload := some payload }

def toJson (event : TriggerEvent) : Json :=
  .ofFields [("event_type", some (.str event.kind.name)), ("payload", event.payload)]

def ofJson? (v : Json) : Option TriggerEvent := do
  let fields ← v.record? ["event_type", "payload"]
  let kind ← Json.required? fields "event_type" fun v => v.case?.bind EventKind.ofName?
  let payload ← Json.optional? fields "payload" some
  some ⟨kind, payload⟩

end TriggerEvent

namespace Trigger

/-- The trigger of a property for an event without data. -/
def on (property : String) (kind : EventKind) : Trigger :=
  ⟨property, ⟨kind, none⟩⟩

/-- The trigger for another event. -/
def withEvent (trigger : Trigger) (event : TriggerEvent) : Trigger :=
  { trigger with event := event }

def toJson (trigger : Trigger) : Json :=
  .ofFields [("property", some (.str trigger.property)), ("event", some trigger.event.toJson)]

def ofJson? (v : Json) : Option Trigger := do
  let fields ← v.record? ["property", "event"]
  let property ← Json.required? fields "property" Json.string?
  let event ← Json.required? fields "event" TriggerEvent.ofJson?
  some ⟨property, event⟩

end Trigger

end Widgetry
