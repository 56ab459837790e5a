import Widgetry.Pane.Codec
import Widgetry.Proofs.Rule.Codec

/-!
# Panes that come back

A pane comes back section by section and entry by entry. Of an entry, the texts that go with it,
its rule and its condition come back if they are there, and so does their absence; the list of its
options comes back empty as it was left out.
-/

namespace Widgetry

open Json

theorem PaneOption.restores : Restores toJson ofJson? := by
  intro o
  refine read_ofFields ["label", "value"] rfl (by decide) ?_
  intro fields hget
  have hlabel : required? fields "label" string? = some o.label :=
    required?_of_get? (hget "label") rfl
  have hvalue : required? fields "value" some = some o.value :=
    required?_of_get? (hget "value") rfl
  simp only [ofJson?, record?, Option.bind_eq_bind, Option.bind_some, hlabel, hvalue]

theorem HiddenWhen.restores : Restores toJson ofJson? := by
  intro hidden
  cases hidden with
  | «unless» property value | equal property value =>
      refine read_ofFields ["when", "property", "value"] rfl (by decide) ?_
      intro fields hget
      have hkind : required? fields "when" string? = some _ := required?_of_get? (hget "when") rfl
      have hproperty : required? fields "property" string? = some property :=
        required?_of_get? (hget "property") rfl
      have hvalue : required? fields "value" some = some value :=
        required?_of_get? (hget "value") rfl
      simp only [ofJson?, record?, Option.bind_eq_bind, Option.bind_some, hkind, hproperty, hvalue]

theorem HiddenWhen.toJson_ne_null (hidden : HiddenWhen) : hidden.toJson ≠ .null := by
  cases hidden <;> exact ofFields_ne_null _

theorem ControlKind.ofName?_name (kind : ControlKind) : ofName? kind.name = some kind := by
  cases kind <;> rfl

theorem PaneEntry.restores : Restores toJson ofJson? := by
  intro entry
  refine read_ofFields
    ["property_name", "label", "help_text", "placeholder_text", "control_type", "options",
      "validation", "is_bind_property", "is_trigger_property", "is_js_convertible", "hidden"]
    rfl (by decide) ?_
  intro fields hget
  have hproperty : required? fields "property_name" string? = some entry.property :=
    required?_of_get? (hget "property_name") rfl
  have hlabel : required? fields "label" string? = some entry.label :=
    required?_of_get? (hget "label") rfl
  have hhelp : optional? fields "help_text" string? = some entry.help :=
    optional?_of_restores restores_str nofun (hget "help_text")
  have hplaceholder : optional? fields "placeholder_text" string? = some entry.placeholder :=
    optional?_of_restores restores_str nofun (hget "placeholder_text")
  have hcontrol : required? fields "control_type" (fun v => v.case?.bind ControlKind.ofName?) =
      some entry.control :=
    required?_of_get? (hget "control_type") (ControlKind.ofName?_name entry.control)
  have hoptions : defaulted? fields "options" [] (listOf? PaneOption.ofJson?) =
      some entry.options :=
    defaulted?_listOf?_of_restores PaneOption.restores (hget "options")
  have hrule : optional? fields "validation" (Rule.ofJson? false) = some entry.rule :=
    optional?_of_restores (Rule.restores false) Rule.toJson_ne_null (hget "validation")
  have hbindable : required? fields "is_bind_property" bool? = some entry.bindable :=
    required?_of_get? (hget "is_bind_property") rfl
  have htrigger : required? fields "is_trigger_property" bool? = some entry.isTrigger :=
    required?_of_get? (hget "is_trigger_property") rfl
  have hconvertible : defaulted? fields "is_js_convertible" false bool? =
      some entry.convertible :=
    defaulted?_of_get? false (hget "is_js_convertible") rfl
  have hhidden : optional? fields "hidden" HiddenWhen.ofJson? = some entry.hidden :=
    optional?_of_restores HiddenWhen.restores HiddenWhen.toJson_ne_null (hget "hidden")
  simp only [ofJson?, record?, Option.bind_eq_bind, Option.bind_some, hproperty, hlabel, hhelp,
    hplaceholder, hcontrol, hoptions, hrule, hbindable, htrigger, hconvertible, hhidden]

theorem PaneSection.restores : Restores toJson ofJson? := by
  intro s
  refine read_ofFields ["section_name", "children"] rfl (by decide) ?_
  intro fields hget
  have hname : required? fields "section_name" string? = some s.name :=
    required?_of_get? (hget "section_name") rfl
  have hentries : required? fields "children" (listOf? PaneEntry.ofJson?) = some s.entries :=
    required?_of_get? (hget "children") (listOf?_of_restores PaneEntry.restores s.entries)
  simp only [ofJson?, record?, Option.bind_eq_bind, Option.bind_some, hname, hentries]

end Widgetry
