import Widgetry.Catalog
import Widgetry.Proofs.KeySupply

/-!
# Rules that draw keys

Validating draws keys for one reason only: an object lacks a key that is drawn where it is absent.
So a rule without such keys draws nothing, whatever value it is given. Among the properties of all
kinds of widgets there is one whose rule may draw, the old list of tabs.
-/

namespace Widgetry

/-- Whether an absent key is drawn. -/
def KeyDefault.isGenerated : KeyDefault → Bool
  | .absent => false
  | .value _ => false
  | .generated => true

theorem KeyDefault.isIdle_produce {default : KeyDefault} (h : default.isGenerated = false) :
    Drawing.IsIdle default.produce := by
  cases default with
  | absent => exact Drawing.isIdle_pure _
  | value v => exact Drawing.isIdle_pure _
  | generated => cases h

namespace Rule

mutual

/-- Whether validating by a rule may draw keys. -/
def generates : Rule → Bool
  | .array (some item) => item.generates
  | .object keys => generatesAny keys
  | _ => false

/-- Whether validating the keys of an object may draw keys. -/
def generatesAny : List (KeyOf Rule) → Bool
  | [] => false
  | ⟨_, rule, default⟩ :: rest => default.isGenerated || (rule.generates || generatesAny rest)

end

mutual

/-- A rule without keys that are drawn draws nothing. -/
theorem isIdle_validate (properties : Fields) (rule : Rule) (h : rule.generates = false)
    (v : Json) : Drawing.IsIdle (rule.validate properties v) := by
  cases rule with
  | text | boolean | number _ _ _ | regex | safeUrl _ | tabName =>
      rw [validate]
      exact Drawing.isIdle_pure _
  | array item =>
      cases item with
      | none =>
          rw [validate]
          cases itemsOf? v <;> exact Drawing.isIdle_pure _
      | some item =>
          rw [generates] at h
          rw [validate]
          cases itemsOf? v with
          | none => exact Drawing.isIdle_pure _
          | some items =>
              have hitems : Drawing.IsIdle (items.mapM fun x => item.validate properties x) :=
                Drawing.IsIdle.mapM fun x _ => isIdle_validate properties item h x
              exact hitems.bind fun outcomes => Drawing.isIdle_pure _
  | object keys =>
      rw [generates] at h
      rw [validate]
      cases fieldsOf? v with
      | none => exact Drawing.isIdle_pure _
      | some fields =>
          have hkeys := isIdle_validateKeys properties keys h fields none
          exact hkeys.bind fun found => Drawing.isIdle_pure _

theorem isIdle_validateKeys (properties : Fields) (keys : List (KeyOf Rule))
    (h : generatesAny keys = false) (fields : Fields) (problem : Option Problem) :
    Drawing.IsIdle (validateKeys properties keys fields problem) := by
  cases keys with
  | nil =>
      rw [validateKeys]
      exact Drawing.isIdle_pure _
  | cons key rest =>
      obtain ⟨name, rule, default⟩ := key
      rw [generatesAny, Bool.or_eq_false_iff, Bool.or_eq_false_iff] at h
      obtain ⟨hdefault, hrule, hrest⟩ := h
      have hnext := isIdle_validateKeys properties rest hrest
      rw [validateKeys]
      cases fields.get? name with
      | none => exact (KeyDefault.isIdle_produce hdefault).bind fun filled => hnext _ _
      | some v => exact (isIdle_validate properties rule hrule v).bind fun o => hnext _ _

end

end Rule

/-! ## Panes -/

theorem Pane.mem_entries_of_entry? {pane : Pane} {property : String} {entry : PaneEntry}
    (h : pane.entry? property = some entry) : entry ∈ pane.entries ∧ entry.property = property := by
  obtain ⟨section', hsection, hfound⟩ := List.exists_of_findSome?_eq_some h
  refine ⟨List.mem_flatMap.2 ⟨section', hsection, List.mem_of_find?_eq_some hfound⟩, ?_⟩
  simpa using List.find?_some hfound

/-- The old list of tabs is the only property of a kind of widget whose rule may draw keys. -/
theorem WidgetKind.generates_eq_false {kind : WidgetKind} {property : String} {entry : PaneEntry}
    (hentry : kind.pane.entry? property = some entry) {rule : Rule}
    (hrule : entry.rule = some rule) (h : kind = .legacyTabs → property ≠ "tabs") :
    rule.generates = false := by
  have hall : ∀ entry ∈ kind.pane.entries, entry.rule.any Rule.generates = true →
      kind = .legacyTabs ∧ entry.property = "tabs" := by
    cases kind <;> decide
  obtain ⟨hmem, hproperty⟩ := Pane.mem_entries_of_entry? hentry
  rw [← Bool.not_eq_true]
  intro hgenerates
  obtain ⟨hkind, htabs⟩ := hall entry hmem (by rw [hrule]; exact hgenerates)
  exact h hkind (hproperty.symm.trans htabs)

end Widgetry
