import Widgetry.Json.Basic

/-!
# Tabs

The tabs of a tab container are an object that holds each tab under its id. A tab has a label, the
key of its content (its widget id), and an index for its place among the others.
-/

namespace Widgetry.Tabs

/-- The tabs of a value in the order of their ids. A value that is no object has none. -/
def items (tabs : Json) : List Json :=
  tabs.fields?.elim [] Table.values

/-- The widget id of a tab. -/
def widgetId? (tab : Json) : Option String :=
  (tab.get? "widgetId").bind Json.string?

/-- The label of a tab. -/
def label? (tab : Json) : Option String :=
  (tab.get? "label").bind Json.string?

/-- The index of a tab; a tab without one comes after all that may have one. -/
def index (tab : Json) : Nat :=
  ((tab.get? "index").bind Json.nat?).getD 0xffffffffffffffff

/-- The tab with the least index; of several the first. -/
def first? : List Json → Option Json
  | [] => none
  | tab :: rest =>
    match first? rest with
    | none => some tab
    | some other => some (if index tab ≤ index other then tab else other)

/-- What the first tab with a widget id holds as its label, or `null`. -/
def labelOf (tabs widgetId : Json) : Json :=
  match widgetId with
  | .str id =>
    .ofOption (((items tabs).find? fun tab => widgetId? tab = some id).bind (·.get? "label"))
  | _ => .null

/-- The widget id of the first tab with a label. -/
def named? (tabs : Json) (label : String) : Option String :=
  ((items tabs).find? fun tab => label? tab = some label).bind widgetId?

/-- The widget id of the tab that is selected at first: the one with the default label, or else
the one with the least index. -/
def initial? (tabs : Json) (default : Option String) : Option String :=
  ((default.filter (· ≠ "")).bind (named? tabs)).or ((first? (items tabs)).bind widgetId?)

end Widgetry.Tabs
