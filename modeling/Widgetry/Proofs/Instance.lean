import Widgetry.Instance
import Widgetry.Proofs.Pane.Codec
import Widgetry.Proofs.WidgetId

/-!
# Widgets that come back

An instance comes back as it was saved: its id from its text, its kind from its tag, and its
version, if it has one, from its number. So what is saved of a pane and of a widget is the pane and
the widget.
-/

namespace Widgetry

open Json

theorem Instance.idOfJson?_toText (id : WidgetId) : idOfJson? (.str id.toText) = some id := by
  rw [idOfJson?, Json.string?, Option.bind_some, WidgetId.ofText?_toText]

theorem Instance.restores : Restores toJson ofJson? := by
  intro w
  refine read_ofFields ["widgetId", "widgetName", "type", "version", "properties"] rfl
    (by decide) ?_
  intro fields hget
  have hid : required? fields "widgetId" idOfJson? = some w.id :=
    required?_of_get? (hget "widgetId") (idOfJson?_toText w.id)
  have hname : required? fields "widgetName" Json.string? = some w.name :=
    required?_of_get? (hget "widgetName") rfl
  have hkind : required? fields "type" (fun v => v.case?.bind WidgetKind.ofTag?) = some w.kind :=
    required?_of_get? (hget "type") (WidgetKind.ofTag?_tag w.kind)
  have hversion : optional? fields "version" word32? = some (w.version.map UInt32.toNat) := by
    have hwritten : fields.get? "version" = w.version.map fun n => .int n.toNat := hget "version"
    refine optional?_of_get? hwritten ?_ ?_
    · intro n
      exact int_ne_null_of_lt (Nat.lt_trans n.toNat_lt (by decide))
    · intro n
      exact word32?_int n.toNat_lt
  have hproperties : defaulted? fields "properties" [] fields? = some w.properties :=
    defaulted?_of_get? [] (hget "properties") rfl
  have hsame : (w.version.map UInt32.toNat).map .ofNat = w.version := by
    simp only [Option.map_map, Function.comp_def, UInt32.ofNat_toNat, Option.map_id']
  simp only [ofJson?, record?, Option.bind_eq_bind, Option.bind_some, hid, hname, hkind, hversion,
    hproperties, hsame]

/-- A section of a pane, with whatever entries, options, conditions and rules, and a saved widget
are read back as they were written. -/
theorem section_and_instance_restored (s : PaneSection) (w : Instance) :
    PaneSection.ofJson? s.toJson = some s ∧ Instance.ofJson? w.toJson = some w :=
  ⟨PaneSection.restores s, Instance.restores w⟩

end Widgetry
