import Widgetry.Instance
import Widgetry.Pane.Basic
import Widgetry.Rule.Validation

/-!
# Behaviour of a kind of widget

What a kind of widget declares: its pane, the configuration of a new widget, the transient state
(meta-state) with its first values, and what is derived from both. `Behavior.plain` declares a
pane and nothing else.
-/

namespace Widgetry

/-- What a kind of widget declares. -/
structure Behavior where
  kind : WidgetKind
  pane : Pane
  /-- The properties of a new widget. -/
  defaultConfig : Drawing Fields
  /-- The keys of the meta-state with their first values. -/
  metaDefaults : Fields
  /-- Keys of the meta-state, each with the property from which it is seeded. -/
  defaultProperties : List (String × String)
  /-- Derived keys, each with its template. -/
  derivedProperties : List (String × String)
  /-- The first meta-state of an instance. -/
  seedMeta : Instance → Fields
  /-- What happens to an instance that is loaded. -/
  onLoad : Instance → Drawing Instance

namespace Behavior

/-- The first meta-state of an instance: the first values, save where a property that seeds a key
has a value. -/
def seedFrom (metaDefaults : Fields) (defaultProperties : List (String × String))
    (w : Instance) : Fields :=
  defaultProperties.foldl
    (fun state entry =>
      match w.get? entry.2 with
      | some v => if v.isNull then state else state.insert entry.1 v
      | none => state)
    metaDefaults

/-- A kind of widget with properties and no state. -/
def plain (kind : WidgetKind) (pane : Pane) : Behavior where
  kind
  pane
  defaultConfig := pure []
  metaDefaults := []
  defaultProperties := []
  derivedProperties := []
  seedMeta := seedFrom [] []
  onLoad := pure

/-- Validates the literal value of the property of an entry, if it has one and there is a rule. -/
def validateEntry (w : Instance) (entry : PaneEntry) : Drawing (Option (String × Outcome)) :=
  match entry.rule, w.get? entry.property with
  | some rule, some v =>
    if v.isBinding then pure none
    else do
      let o ← rule.validate w.properties v
      return some (entry.property, o)
  | _, _ => pure none

/-- The outcomes of all literal properties that have a rule, in the order of the pane. -/
def validate (b : Behavior) (w : Instance) : Drawing (List (String × Outcome)) := do
  let outcomes ← b.pane.entries.mapM (validateEntry w)
  return outcomes.filterMap id

end Behavior

end Widgetry
