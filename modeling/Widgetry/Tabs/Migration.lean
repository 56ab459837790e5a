import Widgetry.Instance
import Widgetry.Json.Reader
import Widgetry.KeySupply

/-!
# Migration of tab containers

Tab containers were once saved with a list of tabs, or with a binding that evaluated to one. Since
version 2 the tabs are an object that holds each tab under its id. A migration is a change of
properties: those to set, those to take away, and the new kind and version. `upgrade` computes and
applies it and says whether there was one; an instance that needs none is left alone.
-/

namespace Widgetry

/-- A change of an instance. -/
structure Migration where
  /-- The properties to set. -/
  modify : Fields
  /-- The properties to take away, before others are set. -/
  remove : List String
  kind : WidgetKind
  version : UInt32

namespace Migration

/-- The instance after a change. -/
def apply (m : Migration) (w : Instance) : Instance :=
  { w with
    properties := (m.remove.foldl Table.erase w.properties).overlay m.modify
    kind := m.kind
    version := some m.version }

/-- The version of tab containers whose tabs are an object. -/
def currentVersion : UInt32 := 2

/-- Whether an instance is a tab container of an older version, or of none. -/
def isNeeded (w : Instance) : Bool :=
  w.kind.isTabContainer && w.version.all (· < currentVersion)

/-- The place where a binding for the list of tabs left the value that it had last. -/
def evaluatedTabs : String := "/__evaluation__/evaluatedValues/tabs"

/-- The items of an old list of tabs, which may be written as JSON text. What is no list has no
items. -/
def listItems : Json → List Json
  | .arr items => items
  | .str s => ((Json.read? s).bind Json.items?).getD []
  | _ => []

/-- The items of the old list of tabs of an instance. There is no list if the property is absent,
or is a binding that left no value. -/
def oldItems? (w : Instance) : Option (List Json) :=
  (w.get? "tabs").bind fun v =>
    if v.isBinding then (w.pointer? evaluatedTabs).map listItems else some (listItems v)

/-- The text of a field that holds one that is not empty. -/
def text? (fields : Fields) (name : String) : Option String :=
  ((fields.get? name).bind Json.string?).filter (· ≠ "")

/-- The id of a tab: its own, or a drawn key if it has none or one that is taken. -/
def tabId (taken : Fields) (tab : Fields) : Drawing String :=
  match (text? tab "id").filter fun id => !taken.contains id with
  | some id => pure id
  | none => KeySupply.draw

/-- The tab with a widget id, a drawn one if it has none. -/
def withWidgetId (tab : Fields) : Drawing Fields :=
  if (text? tab "widgetId").isSome then pure tab
  else return tab.insert "widgetId" (.str (← KeySupply.draw))

/-- The tab with a truth value for its visibility; it is visible if nothing else is said. -/
def withVisibility (tab : Fields) : Fields :=
  if ((tab.get? "isVisible").bind Json.bool?).isSome then tab else tab.insert "isVisible" true

/-- Adds an item of an old list to the tabs that are there already. An item without a text for a
label is left out. -/
def addTab (tabs : Fields) : Json → Drawing Fields
  | .obj tab => do
    if ((Table.get? tab "label").bind Json.string?).isNone then return tabs
    let id ← tabId tabs tab
    let tab ← withWidgetId tab
    let tab := ((withVisibility tab).insert "id" (.str id)).insert "index" (.int tabs.length)
    return tabs.insert id (.obj tab)
  | _ => pure tabs

/-- The tabs of an old list, by their ids. -/
def keyed (items : List Json) : Drawing Fields :=
  items.foldlM addTab []

/-- The paths of a list that do not lead to the old list of tabs. -/
def withoutTabs (paths : List Json) : List Json :=
  paths.filter fun path => (path.get? "key").bind Json.string? ≠ some "tabs"

/-- The properties that list paths. -/
def pathLists : List String :=
  ["dynamicBindingPathList", "dynamicPropertyPathList"]

/-- The properties that list paths, with the paths that are kept. -/
def keptPaths (w : Instance) : List (String × Json) :=
  pathLists.filterMap fun name =>
    ((w.get? name).bind Json.items?).map fun paths => (name, .arr (withoutTabs paths))

/-- The new value for the tabs by their ids: the tabs of the old list, or no tabs where there is
neither an old list nor an object. -/
def tabsById (w : Instance) : Drawing (List (String × Json)) :=
  match oldItems? w with
  | some items => return [("tabsObj", .obj (← keyed items))]
  | none => pure (if (w.get? "tabsObj").any Json.isObject then [] else [("tabsObj", .obj [])])

/-- The migration that an instance needs, if it needs one. -/
def plan (w : Instance) : Drawing (Option Migration) :=
  if isNeeded w then do
    let tabs ← tabsById w
    return some
      { modify := .ofList (tabs ++ keptPaths w)
        remove := ["tabs", "__evaluation__"]
        kind := .tabs
        version := currentVersion }
  else pure none

/-- The instance in the current version, and whether there was anything to change. -/
def upgrade (w : Instance) : Drawing (Instance × Bool) := do
  match ← plan w with
  | some m => return (m.apply w, true)
  | none => return (w, false)

/-- The instance in the current version. -/
def migrate (w : Instance) : Drawing Instance := do
  return (← upgrade w).1

end Migration

end Widgetry
