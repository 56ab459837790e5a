/-!
# Kinds of widgets

The kinds of widgets are a closed list. Each has a tag, under which widgets are saved.
-/

namespace Widgetry

/-- A kind of widget. -/
inductive WidgetKind where
  | input
  | iframe
  | tabs
  /-- A tab container that was saved with a list of tabs. It becomes a `tabs` widget when it is
  loaded. -/
  | legacyTabs
deriving DecidableEq, Inhabited

namespace WidgetKind

/-- All kinds in the order in which they are listed. -/
def all : List WidgetKind := [input, iframe, tabs, legacyTabs]

/-- The tag under which widgets of the kind are saved. -/
def tag : WidgetKind → String
  | input => "INPUT_WIDGET"
  | iframe => "IFRAME_WIDGET"
  | tabs => "TABS_WIDGET"
  | legacyTabs => "TABS_MIGRATOR_WIDGET"

/-- The kind of a tag. -/
def ofTag? (tag : String) : Option WidgetKind :=
  all.find? fun kind => kind.tag = tag

/-- Whether widgets of the kind hold tabs. -/
def isTabContainer : WidgetKind → Bool
  | input => false
  | iframe => false
  | tabs => true
  | legacyTabs => true

/-- The place of the kind in the list of all. -/
def order (kind : WidgetKind) : Nat :=
  all.idxOf kind

theorem ofTag?_tag (kind : WidgetKind) : ofTag? kind.tag = some kind := by
  cases kind <;> rfl

end WidgetKind

end Widgetry
