import Widgetry.Behavior

/-!
# Iframe widgets

A page of the web inside the page. The last message from the embedded page is meta-state.
-/

namespace Widgetry

namespace Iframe

/-- The page that a new widget embeds. -/
def defaultSource : String := "https://wikipedia.org"

def general : PaneSection where
  name := "General"
  entries :=
    [ (PaneEntry.textField "source" "Source")
        |>.withHelp "The URL of the page to embed"
        |>.withPlaceholder "Enter the URL of the page to embed"
        |>.withRule (.safeUrl (some defaultSource)),
      (PaneEntry.textField "title" "Title")
        |>.withHelp "Label the content of the page to embed"
        |>.withPlaceholder "Enter the title of the page to embed"
        |>.withRule .text ]

def actions : PaneSection where
  name := "Actions"
  entries :=
    [ .action "onURLChanged" "Triggers an action when the source URL is changed",
      .action "onMessageReceived" "Triggers an action when a message event is received" ]

/-- A natural number as a bound or a default of a rule. -/
def bound (n : Nat) : Option Finite64 :=
  (Binary64.ofInt n).finite?

def styles : PaneSection where
  name := "Styles"
  entries :=
    [ .color "borderColor" "Border Color",
      (PaneEntry.textField "borderOpacity" "Border Opacity (%)")
        |>.withRule (.number (bound 0) (bound 100) (bound 100)),
      (PaneEntry.textField "borderWidth" "Border Width (px)")
        |>.withRule (.number (bound 0) none (bound 1)) ]

def defaultConfig : Fields :=
  .ofList [("source", defaultSource), ("borderOpacity", .int 100), ("borderWidth", .int 1)]

def metaDefaults : Fields :=
  .ofList [("message", .null)]

def derivedProperties : List (String × String) :=
  [("value", "\x7b\x7b this.message \x7d\x7d")]

end Iframe

/-- What iframe widgets declare. -/
def Behavior.iframe : Behavior where
  kind := .iframe
  pane := [Iframe.general, Iframe.actions, Iframe.styles]
  defaultConfig := pure Iframe.defaultConfig
  metaDefaults := Iframe.metaDefaults
  defaultProperties := []
  derivedProperties := Iframe.derivedProperties
  seedMeta := seedFrom Iframe.metaDefaults []
  onLoad := pure

end Widgetry
