import Widgetry.Behavior

/-!
# Input widgets

A line of text, a number, a password, an address of electronic mail, or an amount of money. The
text is meta-state, seeded from the default text.
-/

namespace Widgetry

namespace Input

/-- The type of inputs for amounts of money, which have properties of their own. -/
def currency : String := "CURRENCY"

/-- The types of data that an input takes. -/
def inputTypes : List PaneOption :=
  [⟨"Text", "TEXT"⟩, ⟨"Number", "NUMBER"⟩, ⟨"Password", "PASSWORD"⟩, ⟨"Email", "EMAIL"⟩,
    ⟨"Currency", currency⟩]

def currencies : List PaneOption :=
  [⟨"USD - US Dollar", "USD"⟩, ⟨"EUR - Euro", "EUR"⟩, ⟨"GBP - British Pound", "GBP"⟩,
    ⟨"INR - Indian Rupee", "INR"⟩, ⟨"JPY - Japanese Yen", "JPY"⟩,
    ⟨"AUD - Australian Dollar", "AUD"⟩, ⟨"CAD - Canadian Dollar", "CAD"⟩]

def decimals : List PaneOption :=
  [⟨"1", .int 1⟩, ⟨"2", .int 2⟩]

/-- The condition under which properties of amounts of money are hidden. -/
def unlessCurrency : HiddenWhen :=
  .unless "inputType" currency

def general : PaneSection where
  name := "General"
  entries :=
    [ (PaneEntry.dropDown "inputType" "Data Type" inputTypes)
        |>.withHelp "Changes the type of data captured in the input",
      { PaneEntry.switch "allowCurrencyChange" "Allow currency change" true with
          convertible := false }
        |>.withHelp "Search by currency or country"
        |>.hiddenWhen unlessCurrency,
      (PaneEntry.dropDown "currencyCountryCode" "Currency" currencies)
        |>.withHelp "Changes the type of currency"
        |>.withPlaceholder "Search by code or name"
        |>.hiddenWhen unlessCurrency,
      (PaneEntry.dropDown "decimalsInCurrency" "Decimals" decimals)
        |>.withHelp "No. of decimals in currency input"
        |>.hiddenWhen unlessCurrency,
      (PaneEntry.textField "defaultText" "Default Text")
        |>.withHelp
          "Sets the default text of the widget. The text is updated if the default text changes"
        |>.withPlaceholder "Enter default text"
        |>.withRule .text,
      (PaneEntry.textField "placeholderText" "Placeholder")
        |>.withHelp "Sets a placeholder text for the input"
        |>.withPlaceholder "Enter placeholder text"
        |>.withRule .text,
      (PaneEntry.textField "regex" "Regex")
        |>.withHelp "Adds a validation to the input which displays an error on failure"
        |>.withPlaceholder "^\\w+@[a-zA-Z_]+?\\.[a-zA-Z]\x7b2,3\x7d$"
        |>.withRule .regex,
      (PaneEntry.textField "errorMessage" "Error Message")
        |>.withHelp "Displays the error message if the regex validation fails"
        |>.withPlaceholder "Enter error message"
        |>.withRule .text,
      (PaneEntry.switch "isRequired" "Required" true)
        |>.withHelp "Makes input to the widget mandatory",
      (PaneEntry.switch "isVisible" "Visible" true)
        |>.withHelp "Controls the visibility of the widget",
      (PaneEntry.switch "isDisabled" "Disabled" true)
        |>.withHelp "Disables input to this widget",
      (PaneEntry.switch "resetOnSubmit" "Reset on submit" true)
        |>.withHelp "Clears the input value after submit" ]

def actions : PaneSection where
  name := "Actions"
  entries :=
    [ .action "onTextChanged" "Triggers an action when the text is changed",
      .action "onSubmit" "Triggers an action on submit (when the enter key is pressed)" ]

def defaultConfig : Fields :=
  .ofList
    [("inputType", "TEXT"), ("defaultText", ""), ("regex", ""), ("isRequired", false),
      ("isVisible", true), ("isDisabled", false), ("resetOnSubmit", true)]

def metaDefaults : Fields :=
  .ofList
    [("text", .null), ("isFocused", false), ("isDirty", false), ("selectedCurrencyType", .null)]

def defaultProperties : List (String × String) :=
  [("text", "defaultText")]

def derivedProperties : List (String × String) :=
  [("isValid",
      "\x7b\x7b inputIsValid(this.inputType, this.text, this.regex, this.isRequired) \x7d\x7d"),
    ("value", "\x7b\x7b this.text \x7d\x7d")]

end Input

/-- What input widgets declare. -/
def Behavior.input : Behavior where
  kind := .input
  pane := [Input.general, Input.actions]
  defaultConfig := pure Input.defaultConfig
  metaDefaults := Input.metaDefaults
  defaultProperties := Input.defaultProperties
  derivedProperties := Input.derivedProperties
  seedMeta := seedFrom Input.metaDefaults Input.defaultProperties
  onLoad := pure

end Widgetry
