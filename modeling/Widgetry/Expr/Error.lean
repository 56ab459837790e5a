import Widgetry.Json.Printer
import Widgetry.Expr.Basic

/-!
# Errors of expressions

What can be wrong with the text of an expression or with its evaluation, and the words for it.
-/

namespace Widgetry

/-- What is wrong with the text of an expression. -/
inductive SyntaxError where
  | empty
  | unexpectedCharacter (c : Char)
  | invalidNumber (text : List Char)
  | unterminatedString
  | unexpectedEnd
  | unexpectedMark (mark : String)
  | expectedMark (mark : String)
  | expectedMember
  | notCallable
  | trailingInput
  | tooDeep
deriving DecidableEq

/-- Why an expression has no value. The place of an error in a text is counted in bytes. -/
inductive ExprError where
  | syntaxError (cause : SyntaxError) (offset : Nat)
  | unknownIdentifier (name : String)
  | unknownFunction (name : String)
  | arity (name : String) (expected got : Nat)
  /-- A value without a length was asked for it. -/
  | noLength (v : Json)

/-- The words for what is wrong with a text. -/
def SyntaxError.message : SyntaxError → String
  | .empty => "empty expression"
  | .unexpectedCharacter c => s!"unexpected character '{c}'"
  | .invalidNumber text => s!"invalid number '{String.ofList text}'"
  | .unterminatedString => "unterminated string literal"
  | .unexpectedEnd => "unexpected end of expression"
  | .unexpectedMark mark => s!"unexpected '{mark}'"
  | .expectedMark mark => s!"expected '{mark}'"
  | .expectedMember => "expected property name after '.'"
  | .notCallable => "only named functions can be called"
  | .trailingInput => "unexpected trailing input"
  | .tooDeep => "expression nested too deeply"

/-- The words for an error. -/
def ExprError.message : ExprError → String
  | .syntaxError cause offset => s!"parse error at offset {offset}: {cause.message}"
  | .unknownIdentifier name => s!"unknown identifier: {name}"
  | .unknownFunction name => s!"unknown function: {name}"
  | .arity name expected got => s!"{name} expects {expected} argument(s), got {got}"
  | .noLength v => s!"type error: len() of {v.write}"

end Widgetry
