import Widgetry.Pane.Basic
import Widgetry.Rule.Codec

/-!
# Panes as JSON

Sections, their entries and what belongs to entries are records. Absent parts and an empty list of
options are not written.
-/

namespace Widgetry

namespace PaneOption

def toJson (o : PaneOption) : Json :=
  .ofFields [("label", some (.str o.label)), ("value", some o.value)]

def ofJson? (v : Json) : Option PaneOption := do
  let fields ← v.record? ["label", "value"]
  let label ← Json.required? fields "label" Json.string?
  let value ← Json.required? fields "value" some
  some ⟨label, value⟩

end PaneOption

namespace HiddenWhen

def toJson : HiddenWhen → Json
  | .unless property value => write "property_not_equals" property value
  | .equal property value => write "property_equals" property value
where
  /-- The record of a condition of a kind. -/
  write (kind property : String) (value : Json) : Json :=
    .ofFields
      [("when", some (.str kind)), ("property", some (.str property)), ("value", some value)]

def ofJson? (v : Json) : Option HiddenWhen := do
  let fields ← v.record? ["when", "property", "value"]
  let kind ← Json.required? fields "when" Json.string?
  let build : String → Json → HiddenWhen ← match kind with
    | "property_not_equals" => some .unless
    | "property_equals" => some .equal
    | _ => none
  let property ← Json.required? fields "property" Json.string?
  let value ← Json.required? fields "value" some
  some (build property value)

end HiddenWhen

namespace PaneEntry

def toJson (entry : PaneEntry) : Json :=
  .ofFields
    [("property_name", some (.str entry.property)),
      ("label", some (.str entry.label)),
      ("help_text", entry.help.map .str),
      ("placeholder_text", entry.placeholder.map .str),
      ("control_type", some (.str entry.control.name)),
      ("options",
        if entry.options.isEmpty then none else some (.arr (entry.options.map PaneOption.toJson))),
      ("validation", entry.rule.map Rule.toJson),
      ("is_bind_property", some (.bool entry.bindable)),
      ("is_trigger_property", some (.bool entry.isTrigger)),
      ("is_js_convertible", some (.bool entry.convertible)),
      ("hidden", entry.hidden.map HiddenWhen.toJson)]

def ofJson? (v : Json) : Option PaneEntry := do
  let fields ← v.record?
    ["property_name", "label", "help_text", "placeholder_text", "control_type", "options",
      "validation", "is_bind_property", "is_trigger_property", "is_js_convertible", "hidden"]
  let property ← Json.required? fields "property_name" Json.string?
  let label ← Json.required? fields "label" Json.string?
  let help ← Json.optional? fields "help_text" Json.string?
  let placeholder ← Json.optional? fields "placeholder_text" Json.string?
  let control ← Json.required? fields "control_type" fun v => v.case?.bind ControlKind.ofName?
  let options ← Json.defaulted? fields "options" [] (Json.listOf? PaneOption.ofJson?)
  let rule ← Json.optional? fields "validation" (Rule.ofJson? false)
  let bindable ← Json.required? fields "is_bind_property" Json.bool?
  let isTrigger ← Json.required? fields "is_trigger_property" Json.bool?
  let convertible ← Json.defaulted? fields "is_js_convertible" false Json.bool?
  let hidden ← Json.optional? fields "hidden" HiddenWhen.ofJson?
  some ⟨property, label, help, placeholder, control, options, rule, bindable, isTrigger,
    convertible, hidden⟩

end PaneEntry

namespace PaneSection

def toJson (s : PaneSection) : Json :=
  .ofFields
    [("section_name", some (.str s.name)),
      ("children", some (.arr (s.entries.map PaneEntry.toJson)))]

def ofJson? (v : Json) : Option PaneSection := do
  let fields ← v.record? ["section_name", "children"]
  let name ← Json.required? fields "section_name" Json.string?
  let entries ← Json.required? fields "children" (Json.listOf? PaneEntry.ofJson?)
  some ⟨name, entries⟩

end PaneSection

end Widgetry
