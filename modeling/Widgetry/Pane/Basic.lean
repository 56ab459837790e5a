import Widgetry.Rule.Basic

/-!
# Property panes

The pane of a kind of widget lists its properties in sections, each with the control to edit it,
the rule for its value, and the condition under which it is hidden.
-/

namespace Widgetry

/-- The controls with which properties are edited. -/
inductive ControlKind where
  | inputText
  | dropDown
  | switch
  | actionSelector
  | colorPicker
  | tabsInput
deriving DecidableEq, Inhabited

namespace ControlKind

def all : List ControlKind :=
  [inputText, dropDown, switch, actionSelector, colorPicker, tabsInput]

def name : ControlKind → String
  | inputText => "INPUT_TEXT"
  | dropDown => "DROP_DOWN"
  | switch => "SWITCH"
  | actionSelector => "ACTION_SELECTOR"
  | colorPicker => "COLOR_PICKER"
  | tabsInput => "TABS_INPUT"

def ofName? (name : String) : Option ControlKind :=
  all.find? fun kind => kind.name = name

end ControlKind

/-- A choice of a drop-down control. -/
structure PaneOption where
  label : String
  value : Json

/-- When an entry is hidden: while a property has a value, or unless it has. -/
inductive HiddenWhen where
  | unless (property : String) (value : Json)
  | equal (property : String) (value : Json)

/-- Whether the condition holds for some properties. An absent property has no value. -/
def HiddenWhen.holds (properties : Fields) : HiddenWhen → Bool
  | .unless property value => !Json.sameOption (properties.get? property) value
  | .equal property value => Json.sameOption (properties.get? property) value

/-- A property of a kind of widget. -/
structure PaneEntry where
  property : String
  label : String
  help : Option String := none
  placeholder : Option String := none
  control : ControlKind
  options : List PaneOption := []
  rule : Option Rule := none
  /-- The value may be a binding. -/
  bindable : Bool := false
  /-- The value is an action, not data. -/
  isTrigger : Bool := false
  /-- The control can be exchanged for an editor of bindings. -/
  convertible : Bool := false
  hidden : Option HiddenWhen := none

/-- A section of a pane. -/
structure PaneSection where
  name : String
  entries : List PaneEntry

/-- The sections of a kind of widget in the order in which they are shown. -/
abbrev Pane := List PaneSection

namespace PaneEntry

/-- A text field that may hold a binding. -/
def textField (property label : String) : PaneEntry where
  property
  label
  control := .inputText
  bindable := true

/-- A switch. One that may hold a binding has a rule for its value. -/
def switch (property label : String) (bindable : Bool) : PaneEntry where
  property
  label
  control := .switch
  rule := if bindable then some .boolean else none
  bindable
  convertible := bindable

def dropDown (property label : String) (options : List PaneOption) : PaneEntry where
  property
  label
  control := .dropDown
  options

/-- A property that holds an action. -/
def action (property help : String) : PaneEntry where
  property
  label := property
  help := some help
  control := .actionSelector
  bindable := true
  isTrigger := true
  convertible := true

def color (property label : String) : PaneEntry where
  property
  label
  control := .colorPicker

/-- A list of tabs. -/
def tabsField (property label : String) : PaneEntry where
  property
  label
  control := .tabsInput
  bindable := true
  convertible := true

def withHelp (entry : PaneEntry) (help : String) : PaneEntry :=
  { entry with help := some help }

def withPlaceholder (entry : PaneEntry) (placeholder : String) : PaneEntry :=
  { entry with placeholder := some placeholder }

def withRule (entry : PaneEntry) (rule : Rule) : PaneEntry :=
  { entry with rule := some rule }

def hiddenWhen (entry : PaneEntry) (hidden : HiddenWhen) : PaneEntry :=
  { entry with hidden := some hidden }

/-- Whether the entry is hidden for some properties. -/
def isHidden (entry : PaneEntry) (properties : Fields) : Bool :=
  entry.hidden.any fun hidden => hidden.holds properties

end PaneEntry

namespace PaneSection

/-- The first entry of a property. -/
def entry? (s : PaneSection) (property : String) : Option PaneEntry :=
  s.entries.find? fun entry => entry.property = property

/-- The entries that are not hidden, in order. -/
def visible (s : PaneSection) (properties : Fields) : List PaneEntry :=
  s.entries.filter fun entry => !entry.isHidden properties

end PaneSection

namespace Pane

/-- All entries in order. -/
def entries (pane : Pane) : List PaneEntry :=
  pane.flatMap PaneSection.entries

/-- The first entry of a property in the whole pane. -/
def entry? (pane : Pane) (property : String) : Option PaneEntry :=
  pane.findSome? fun s => s.entry? property

/-- The names of the properties in increasing order, each once. -/
def properties (pane : Pane) : List String :=
  (Table.ofList (pane.entries.map fun entry => (entry.property, ()))).keys

end Pane

end Widgetry
