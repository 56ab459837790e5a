import Widgetry.ActionRequest
import Widgetry.Config
import Widgetry.Page.MetaState

/-!
# Pages

A page holds the mounted widgets with their meta-state, and the requests for actions that have been
dispatched. A `Change` is an operation on a page; an `Attempt` is one that may fail, and what it has
done before it fails is done.
-/

namespace Widgetry

/-- The reasons for which an operation on a page fails. -/
inductive PageError where
  | notMounted (id : WidgetId)
  /-- The key of a kind of widget is no meta-state. -/
  | notState (kind : WidgetKind) (key : String) (category : KeyCategory)
  | wrongKind (expected found : WidgetKind)
deriving DecidableEq

/-- The words for the failure of an operation. -/
def PageError.message : PageError → String
  | .notMounted id => s!"widget not mounted: {id.toText}"
  | .notState kind key category =>
    s!"{key} is a {category.name} key of {kind.tag}, not meta-state"
  | .wrongKind expected found => s!"expected a {expected.tag} widget, found {found.tag}"

/-- The mounted widgets, what they have come to, and what has been asked for. -/
structure Page where
  config : Config
  /-- Whether there is anything that could run actions. -/
  canRun : Bool
  widgets : Table WidgetId Instance
  states : MetaStore
  /-- The keys from which operations draw. -/
  keys : KeySupply
  /-- The requests that have been dispatched, first to last. -/
  requests : List ActionRequest

namespace Page

/-- A page without widgets. -/
def empty (config : Config) (canRun : Bool) (keys : KeySupply) : Page :=
  { config, canRun, widgets := [], states := [], keys, requests := [] }

/-- An operation on a page. -/
abbrev Change := StateM Page

/-- An operation on a page that may fail. -/
abbrev Attempt := ExceptT PageError Change

/-- A mounted widget. -/
def widget? (page : Page) (id : WidgetId) : Option Instance :=
  page.widgets.get? id

/-- The meta-state of a widget, empty where it has none. -/
def snapshot (page : Page) (id : WidgetId) : Fields :=
  (page.states.snapshot? id).getD []

/-- The first mounted widget with a name. -/
def named? (page : Page) (name : String) : Option WidgetId :=
  (page.widgets.find? fun entry => entry.2.name = name).map Prod.fst

/-- Draws from the keys of the page. -/
def drawing {α : Type} (d : Drawing α) : Change α := fun page =>
  let (a, keys) := d.run page.keys
  (a, { page with keys })

/-- A mounted widget, or the failure that it is not mounted. -/
def widget (id : WidgetId) : Attempt Instance := do
  match (← get).widget? id with
  | some w => return w
  | none => throw (.notMounted id)

/-- A mounted widget of a kind, or the failure that there is none. -/
def widgetOfKind (kind : WidgetKind) (id : WidgetId) : Attempt Instance := do
  let w ← widget id
  if w.kind = kind then return w else throw (.wrongKind kind w.kind)

end Page

end Widgetry
