import Widgetry.Expr.Coercion
import Widgetry.Pattern

/-!
# Valid input

Whether the text in an input widget is valid depends on the type of data that the input takes, on
the pattern that is configured for it, and on whether there has to be a text.
-/

namespace Widgetry

namespace InputText

/-- The expression for addresses of electronic mail. -/
def emailSource : String :=
  "^\\w+([\\.-]?\\w+)*@\\w+([\\.-]?\\w+)*(\\.\\w\x7b2,3\x7d)+$"

/-- The compiled expression for addresses of electronic mail. -/
def emailExpression : Option Regex.Compiled :=
  Regex.compile? emailSource

/-- Whether a text is an address of electronic mail. -/
def isEmail (text : String) : Bool :=
  emailExpression.any fun r => r.matchesPart text

/-- Whether a text is valid in an input that takes numbers. A pattern decides alone. Without one,
the text writes a number, or is empty where nothing is required. -/
def isValidNumber (pattern : Option Pattern) (text : String) (required : Bool) : Bool :=
  match pattern with
  | some p => p.accepts text
  | none => if text = "" then !required else isNumeric text

/-- Whether a text is valid in an input of a type. Addresses of electronic mail have their own
expression; a text of every other type than number is not empty if it is required, and is
accepted by the pattern if there is one. -/
def isValid (inputType text regex : String) (required : Bool) : Bool :=
  let pattern := Pattern.read? regex
  if inputType = "EMAIL" then isEmail text
  else if inputType = "NUMBER" then isValidNumber pattern text required
  else if required && text = "" then false
  else pattern.all fun p => p.accepts text

end InputText

end Widgetry
