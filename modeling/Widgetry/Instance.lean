import Widgetry.Json.Pointer
import Widgetry.Json.Record
import Widgetry.Template
import Widgetry.WidgetId
import Widgetry.WidgetKind

/-!
# Widget instances

An instance is a widget as it is saved: its id, its name, its kind, the version of its form, and
its properties. The value of a property is a literal, or a text with bindings.
-/

namespace Widgetry

/-- A widget as it is saved. Old ones have no version. -/
structure Instance where
  id : WidgetId
  name : String
  kind : WidgetKind
  version : Option UInt32
  properties : Fields

namespace Instance

/-- The value of a property. -/
def get? (w : Instance) (property : String) : Option Json :=
  w.properties.get? property

/-- The text of a property that holds a text. -/
def string? (w : Instance) (property : String) : Option String :=
  (w.get? property).bind Json.string?

def bool? (w : Instance) (property : String) : Option Bool :=
  (w.get? property).bind Json.bool?

def number? (w : Instance) (property : String) : Option Binary64 :=
  (w.get? property).bind Json.number?

/-- The value that a pointer leads to. Its first step is the name of a property as it stands. -/
def pointer? (w : Instance) (pointer : String) : Option Json :=
  match pointer.toList with
  | '/' :: path =>
    let property := path.takeWhile (· ≠ '/')
    (w.get? (String.ofList property)).bind fun v =>
      match path.dropWhile (· ≠ '/') with
      | _ :: rest => v.pointer? rest
      | [] => some v
  | _ => none

/-- The instance with another value for a property. -/
def set (w : Instance) (property : String) (v : Json) : Instance :=
  { w with properties := w.properties.insert property v }

/-- The instance without a property. -/
def remove (w : Instance) (property : String) : Instance :=
  { w with properties := w.properties.erase property }

/-- Whether a property holds a binding. -/
def isBound (w : Instance) (property : String) : Bool :=
  (w.get? property).any Json.isBinding

def toJson (w : Instance) : Json :=
  .ofFields
    [("widgetId", some (.str w.id.toText)),
      ("widgetName", some (.str w.name)),
      ("type", some (.str w.kind.tag)),
      ("version", w.version.map fun v => .int v.toNat),
      ("properties", some (.obj w.properties))]

/-- Reads an id. -/
def idOfJson? (v : Json) : Option WidgetId :=
  v.string?.bind WidgetId.ofText?

def ofJson? (v : Json) : Option Instance := do
  let fields ← v.record? ["widgetId", "widgetName", "type", "version", "properties"]
  let id ← Json.required? fields "widgetId" idOfJson?
  let name ← Json.required? fields "widgetName" Json.string?
  let kind ← Json.required? fields "type" fun v => v.case?.bind WidgetKind.ofTag?
  let version ← Json.optional? fields "version" Json.word32?
  let properties ← Json.defaulted? fields "properties" [] Json.fields?
  some ⟨id, name, kind, version.map .ofNat, properties⟩

end Instance

end Widgetry
