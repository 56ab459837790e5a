import Widgetry.Catalog

/-!
# Meta-state

The meta-state of a widget is what changes while it is used, such as the text of an input. It is
seeded from the properties of the widget and never saved. A key that holds no value has the first
value that its kind declares, and otherwise `null`.
-/

namespace Widgetry

/-- The meta-state of a widget: the declared first values, and the values that it holds. -/
structure MetaState where
  defaults : Fields
  values : Fields

namespace MetaState

/-- The first meta-state of an instance. -/
def seeded (w : Instance) : MetaState :=
  ⟨w.kind.behavior.metaDefaults, w.seed⟩

/-- The value of a key. -/
def read (s : MetaState) (key : String) : Json :=
  .ofOption ((s.values.get? key).or (s.defaults.get? key))

/-- The value that a key holds, without regard to what is declared. -/
def held (s : MetaState) (key : String) : Json :=
  .ofOption (s.values.get? key)

/-- The meta-state with another value for a key. -/
def write (s : MetaState) (key : String) (v : Json) : MetaState :=
  { s with values := s.values.insert key v }

/-- The values of all keys. -/
def snapshot (s : MetaState) : Fields :=
  s.defaults.overlay s.values

end MetaState

/-- The meta-states of widgets. -/
abbrev MetaStore := Table WidgetId MetaState

namespace MetaStore

/-- Gives a widget its first meta-state, in place of the one it has. -/
def seed (store : MetaStore) (w : Instance) : MetaStore :=
  store.insert w.id (.seeded w)

/-- The value of a key of a widget, `null` where there is no meta-state. -/
def read (store : MetaStore) (id : WidgetId) (key : String) : Json :=
  (store.get? id).elim .null fun s => s.read key

/-- The values of all keys of a widget. -/
def snapshot? (store : MetaStore) (id : WidgetId) : Option Fields :=
  (store.get? id).map MetaState.snapshot

end MetaStore

end Widgetry
