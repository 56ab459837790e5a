import Widgetry.Behavior.Iframe
import Widgetry.Behavior.Input
import Widgetry.Behavior.Tabs

/-!
# The catalogue of widgets

Every kind of widget has its behaviour. From it follow the panes, what a new widget looks like,
how a saved one is loaded, and to which category a key belongs.
-/

namespace Widgetry

namespace WidgetKind

/-- The behaviour of a kind. -/
def behavior : WidgetKind → Behavior
  | input => .input
  | iframe => .iframe
  | tabs => .tabs
  | legacyTabs => .legacyTabs

theorem behavior_kind (kind : WidgetKind) : kind.behavior.kind = kind := by
  cases kind <;> rfl

/-- The pane of a kind. -/
def pane (kind : WidgetKind) : Pane :=
  kind.behavior.pane

/-- The names of the properties of a kind, in increasing order. -/
def properties (kind : WidgetKind) : List String :=
  kind.pane.properties

/-- The keys of the meta-state of a kind, in increasing order. -/
def metaKeys (kind : WidgetKind) : List String :=
  kind.behavior.metaDefaults.keys

/-- The derived keys of a kind. -/
def derivedKeys (kind : WidgetKind) : List String :=
  kind.behavior.derivedProperties.map Prod.fst

/-- The keys that are declared in more than one way, in increasing order. -/
def overlappingKeys (kind : WidgetKind) : List String :=
  let declared := [kind.properties, kind.metaKeys, kind.derivedKeys]
  let keys := (Table.ofList (declared.flatten.map (·, ()))).keys
  keys.filter fun key => 1 < declared.countP fun names => key ∈ names

end WidgetKind

/-- The pane of a tag. A tag of no kind has an empty one. -/
def Pane.ofTag (tag : String) : Pane :=
  (WidgetKind.ofTag? tag).elim [] WidgetKind.pane

namespace Instance

/-- A new instance of a kind. -/
def create (id : WidgetId) (kind : WidgetKind) (name : String) : Drawing Instance := do
  let properties ← kind.behavior.defaultConfig
  let version := if kind = .tabs then some Migration.currentVersion else none
  return { id, name, kind, version, properties }

/-- A saved instance as it is used. -/
def load (w : Instance) : Drawing Instance :=
  w.kind.behavior.onLoad w

/-- The first meta-state of an instance. -/
def seed (w : Instance) : Fields :=
  w.kind.behavior.seedMeta w

/-- The outcomes of the literal properties of an instance. -/
def validate (w : Instance) : Drawing (List (String × Outcome)) :=
  w.kind.behavior.validate w

end Instance

/-- What a key of a kind of widget is. -/
inductive KeyCategory where
  | property
  | state
  | derived
  /-- A key that is declared nowhere. It may be used for meta-state. -/
  | undeclared
deriving DecidableEq, Inhabited

namespace KeyCategory

/-- The category of a key. Properties come first, then what is derived. -/
def of (kind : WidgetKind) (key : String) : KeyCategory :=
  if key ∈ kind.properties then property
  else if key ∈ kind.derivedKeys then derived
  else if key ∈ kind.metaKeys then state
  else undeclared

/-- Whether keys of the category may be written as meta-state. -/
def isWritable : KeyCategory → Bool
  | property => false
  | derived => false
  | state => true
  | undeclared => true

def name : KeyCategory → String
  | property => "Property"
  | state => "Meta"
  | derived => "Derived"
  | undeclared => "Undeclared"

end KeyCategory

end Widgetry
