import Widgetry.Page.Interaction
import Widgetry.Pane.Codec
import Widgetry.Proofs.Expr.Height
import Widgetry.Proofs.Page.Dispatch
import Widgetry.Proofs.Page.Failure
import Widgetry.Proofs.Page.History
import Widgetry.Proofs.Page.Independence
import Widgetry.Proofs.Tabs.Keyed
import Widgetry.Proofs.Number.Exact
import Widgetry.Proofs.Rule.Compound
import Widgetry.Proofs.Rule.Conformance
import Widgetry.Proofs.Rule.Stability
import Widgetry.Proofs.Page.Reset
import Widgetry.Proofs.Expr.Brace
import Widgetry.Proofs.Template.Enclosed
import Widgetry.Proofs.Page.Literal
import Widgetry.Proofs.Page.Selection
import Widgetry.Proofs.Page.Submission
import Widgetry.Proofs.Json.Record
import Widgetry.Proofs.Pane.Codec
import Widgetry.Proofs.WidgetId
import Widgetry.Proofs.Instance
import Widgetry.Proofs.Trigger
import Widgetry.Proofs.Page.Commutation
import Widgetry.Proofs.Page.Editing
import Widgetry.Proofs.Expr.Confinement
import Widgetry.Proofs.Template.Segments
import Widgetry.Proofs.Expr.Offset
import Widgetry.Proofs.Expr.Spacing
import Widgetry.Proofs.Expr.Quoted
import Widgetry.Proofs.Number.Numeral
import Widgetry.Proofs.Template.Rendering
import Widgetry.Proofs.Expr.Position
import Widgetry.Proofs.Tabs.Unreadable
import Widgetry.Proofs.Page.Origin
import Widgetry.Proofs.Rule.Composition
import Widgetry.Proofs.Page.Shown
import Widgetry.Proofs.Pointer
import Widgetry.Proofs.Expr.Agreement
import Widgetry.Proofs.Expr.Balance
import Widgetry.Proofs.Pattern
