import Widgetry.Catalog
import Widgetry.InputText
import Widgetry.Template

/-!
# Derived properties

Derived properties are templates, evaluated in a scope where `this` is the properties of the
widget with its meta-state laid over them. They are never stored. A template that has no value
makes its key `null`.
-/

namespace Widgetry

/-- The function that decides whether the text of an input is valid. -/
def Function.inputIsValid : Function :=
  ⟨4, fun args =>
    .ok (.bool (InputText.isValid (args 0).display (args 1).display (args 2).display
      (args 3).truthy))⟩

/-- The function that gives the label of the tab with a widget id. -/
def Function.tabLabel : Function :=
  .total₂ Tabs.labelOf

/-- The functions that the bindings of widgets have. -/
def Functions.ofWidgets : Functions :=
  Table.overlay Functions.standard
    (.ofList [("inputIsValid", .inputIsValid), ("tabLabel", .tabLabel)])

/-- What `this` stands for: the properties with the meta-state laid over them. -/
def bindingThis (properties state : Fields) : Json :=
  .obj (properties.overlay state)

/-- What the bindings of a widget see. -/
def Scope.ofWidget (properties state : Fields) (widgets : Table String Json) : Scope :=
  ⟨bindingThis properties state, widgets, .ofWidgets⟩

/-- The value of a binding, `null` if it has none. -/
def Scope.value (scope : Scope) (template : String) : Json :=
  (evalTemplate scope template).toOption.getD .null

/-- The derived properties of a kind of widget. -/
def derive (kind : WidgetKind) (properties state : Fields) (widgets : Table String Json) :
    Fields :=
  let scope := Scope.ofWidget properties state widgets
  .ofList (kind.behavior.derivedProperties.map fun (key, template) => (key, scope.value template))

end Widgetry
