import Widgetry.Json.Record
import Widgetry.Toml.Document

/-!
# Configuration of a page

The configuration says whether triggers start actions, and which messages are logged. It is read
from the table `runtime` of a TOML document, or from JSON. Whatever is left out has its default.
-/

namespace Widgetry

/-- The configuration of a page. -/
structure Config where
  dispatchActions : Bool := true
  logFilter : String := "info"
deriving DecidableEq, Inhabited

namespace Config

def toJson (c : Config) : Json :=
  .ofFields [("dispatch-actions", some (.bool c.dispatchActions)),
    ("log-filter", some (.str c.logFilter))]

def ofJson? (v : Json) : Option Config := do
  let fields ← v.record? ["dispatch-actions", "log-filter"]
  let dispatchActions ← Json.defaulted? fields "dispatch-actions" true Json.bool?
  let logFilter ← Json.defaulted? fields "log-filter" "info" Json.string?
  some ⟨dispatchActions, logFilter⟩

/-- The configuration of two settings, each of which may be left out. -/
def ofSettings? (dispatch filter : Option Toml) : Option Config := do
  let dispatchActions ← match dispatch with
    | none => some true
    | some (.bool b) => some b
    | some _ => none
  let logFilter ← match filter with
    | none => some "info"
    | some (.text s) => some s
    | some _ => none
  some ⟨dispatchActions, logFilter⟩

/-- The configuration that a value holds: a table by its names, an array by its order. A moment
holds none of the settings. -/
def ofToml? : Toml → Option Config
  | .table _ entries =>
    ofSettings? (Table.get? entries "dispatch-actions") (Table.get? entries "log-filter")
  | .array items => ofSettings? items[0]? items[1]?
  | .moment _ => some {}
  | _ => none

/-- The configuration in a text. -/
def ofText? (text : String) : Option Config :=
  (Toml.read? text).bind fun document => (document.get? "runtime").elim (some {}) ofToml?

/-- The configuration in a file. Where there is no file, or none that can be read, everything has
its default. -/
def load (contents : Option ByteArray) : Config :=
  ((contents.bind String.fromUTF8?).bind ofText?).getD {}

end Config

end Widgetry
