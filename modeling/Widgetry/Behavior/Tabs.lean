import Widgetry.Behavior
import Widgetry.Tabs.Basic
import Widgetry.Tabs.Migration

/-!
# Tab containers

A tab container shows the content of one of its tabs at a time. The widget id of the selected tab is
meta-state. `legacyTabs` is the form in which containers with a list of tabs were saved; loading
turns it into `tabs`.
-/

namespace Widgetry

namespace Tabs

/-- The first section of the pane, with the entry for the tabs themselves. -/
def general (tabs : PaneEntry) : PaneSection where
  name := "General"
  entries :=
    [ tabs,
      (PaneEntry.switch "shouldShowTabs" "Show Tabs" false)
        |>.withHelp
          "Hides the tabs so that different widgets can be displayed based on the default tab",
      (PaneEntry.textField "defaultTab" "Default Tab")
        |>.withHelp "Selects a tab name specified by default"
        |>.withPlaceholder "Enter tab name"
        |>.withRule .tabName,
      .switch "shouldScrollContents" "Scroll Contents" false,
      (PaneEntry.switch "isVisible" "Visible" true)
        |>.withHelp "Controls the visibility of the widget" ]

def actions : PaneSection where
  name := "Actions"
  entries := [.action "onTabSelected" "Triggers an action when the button is clicked"]

/-- The properties of a new container beside its tabs. -/
def defaultProperties : Fields :=
  .ofList
    [("shouldShowTabs", true), ("defaultTab", "Tab 1"), ("shouldScrollContents", false),
      ("isVisible", true)]

/-- A tab of a new container, with its place among the tabs. -/
def newTab (label id : String) (index : Nat) : Drawing Json := do
  let widgetId ← KeySupply.draw
  return .obj (Table.ofList
    [("label", label), ("id", id), ("widgetId", widgetId), ("isVisible", true),
      ("index", .int index)])

/-- A tab of a new container with a list of tabs. -/
def newListedTab (label id : String) : Drawing Json := do
  let widgetId ← KeySupply.draw
  return .obj (Table.ofList [("label", label), ("id", id), ("widgetId", widgetId)])

def defaultConfig : Drawing Fields := do
  let first ← newTab "Tab 1" "tab1" 0
  let second ← newTab "Tab 2" "tab2" 1
  return Table.insert defaultProperties "tabsObj"
    (.obj (Table.ofList [("tab1", first), ("tab2", second)]))

def listedDefaultConfig : Drawing Fields := do
  let first ← newListedTab "Tab 1" "tab1"
  let second ← newListedTab "Tab 2" "tab2"
  return Table.insert defaultProperties "tabs" (.arr [first, second])

def metaDefaults : Fields :=
  .ofList [("selectedTabWidgetId", .null)]

def derivedProperties : List (String × String) :=
  [("selectedTab", "\x7b\x7b tabLabel(this.tabsObj, this.selectedTabWidgetId) \x7d\x7d")]

/-- The first meta-state of a container: the default tab is given by its label, and its widget id
is selected. -/
def seedMeta (w : Instance) : Fields :=
  match initial? (.ofOption (w.get? "tabsObj")) (w.string? "defaultTab") with
  | some id => Table.insert metaDefaults "selectedTabWidgetId" (.str id)
  | none => metaDefaults

/-- The entry for tabs by their ids. -/
def byId : PaneEntry :=
  (PaneEntry.tabsField "tabsObj" "Tabs")
    |>.withHelp "Tabs of the widget, keyed by id"
    |>.withRule (.object [])

/-- The rule for a tab in a list. -/
def listedTab : Rule :=
  .object
    [⟨"label", .text, .absent⟩, ⟨"id", .text, .generated⟩, ⟨"widgetId", .text, .generated⟩]

/-- The entry for a list of tabs. -/
def listed : PaneEntry :=
  (PaneEntry.tabsField "tabs" "Tabs")
    |>.withHelp "Takes an array of tab names to render tabs"
    |>.withRule (.array (some listedTab))

end Tabs

namespace Behavior

/-- What tab containers declare. -/
def tabs : Behavior where
  kind := .tabs
  pane := [Tabs.general Tabs.byId, Tabs.actions]
  defaultConfig := Tabs.defaultConfig
  metaDefaults := Tabs.metaDefaults
  defaultProperties := [("selectedTabWidgetId", "defaultTab")]
  derivedProperties := Tabs.derivedProperties
  seedMeta := Tabs.seedMeta
  onLoad := Migration.migrate

/-- What tab containers with a list of tabs declare. -/
def legacyTabs : Behavior where
  kind := .legacyTabs
  pane := [Tabs.general Tabs.listed, Tabs.actions]
  defaultConfig := Tabs.listedDefaultConfig
  metaDefaults := []
  defaultProperties := []
  derivedProperties := []
  seedMeta := seedFrom [] []
  onLoad := Migration.migrate

end Behavior

end Widgetry
