import Widgetry.Regex.Matcher
import Widgetry.Text.Search

/-!
# Patterns of a widget

A pattern is configured as one string: an expression between slashes with flags after them, or a
bare expression. Reading a pattern never fails. A string that is no expression of either kind
stands for itself, so that it matches the texts that contain it.

Compiling is a parameter of `Pattern.ofSource?`, so the rules for slashes and flags do not depend
on which expressions compile.
-/

namespace Widgetry

/-- The flags after the closing slash. -/
structure PatternFlags where
  everywhere : Bool := false
  ignoreCase : Bool := false
  multiLine : Bool := false
  dotAll : Bool := false
  unicode : Bool := false
  sticky : Bool := false
deriving DecidableEq, Inhabited

namespace PatternFlags

/-- The flags with that of a letter. It must not be set yet. -/
def set? (flags : PatternFlags) : Char → Option PatternFlags
  | 'g' => if flags.everywhere then none else some { flags with everywhere := true }
  | 'i' => if flags.ignoreCase then none else some { flags with ignoreCase := true }
  | 'm' => if flags.multiLine then none else some { flags with multiLine := true }
  | 's' => if flags.dotAll then none else some { flags with dotAll := true }
  | 'u' => if flags.unicode then none else some { flags with unicode := true }
  | 'y' => if flags.sticky then none else some { flags with sticky := true }
  | _ => none

/-- The flags that a suffix sets, letter by letter. -/
def ofSuffix? (suffix : List Char) : Option PatternFlags :=
  suffix.foldlM set? {}

/-- The letters of the flags that the expression itself has to know. -/
def inner (flags : PatternFlags) : List Char :=
  (if flags.ignoreCase then ['i'] else []) ++ (if flags.multiLine then ['m'] else []) ++
    (if flags.dotAll then ['s'] else [])

/-- The directive that sets the inner flags for a whole expression. -/
def directive (flags : PatternFlags) : List Char :=
  if flags.inner = [] then [] else ['(', '?'] ++ flags.inner ++ [')']

end PatternFlags

/-- A pattern. Without an expression the source stands for itself. -/
structure Pattern where
  source : String
  expression : Option Regex.Compiled
  sticky : Bool

namespace Pattern

/-- The body and the flags of a source that is written with slashes. The last slash closes the
body, which is not empty. -/
def delimited? (source : List Char) : Option (List Char × PatternFlags) :=
  match source with
  | '/' :: rest =>
    (Text.cutLast? '/' rest).bind fun (body, suffix) =>
      if body = [] then none else (PatternFlags.ofSuffix? suffix).map (body, ·)
  | _ => none

/-- The text of the expression that a source asks for, and whether it has to match at the
beginning. -/
def request (source : List Char) : List Char × Bool :=
  match delimited? source with
  | some (body, flags) => (flags.directive ++ body, flags.sticky)
  | none => (source, false)

/-- The pattern of a source, compiled by `compile`. The empty source is no pattern. -/
def ofSource? (compile : String → Option Regex.Compiled) (source : String) : Option Pattern :=
  if source = "" then none
  else
    let (text, sticky) := request source.toList
    some ⟨source, compile (String.ofList text), sticky⟩

/-- The pattern of a source. -/
def read? (source : String) : Option Pattern :=
  ofSource? Regex.compile? source

/-- Whether the source stands for itself. -/
def isLiteral (p : Pattern) : Bool :=
  p.expression.isNone

/-- The text of the expression, or the source where it stands for itself. -/
def text (p : Pattern) : String :=
  (p.expression.map Regex.Compiled.text).getD p.source

/-- Whether a text matches: somewhere, or at its beginning if the pattern is sticky. -/
def accepts (p : Pattern) (text : String) : Bool :=
  match p.expression, p.sticky with
  | some r, false => r.matchesPart text
  | some r, true => r.matchesStart text
  | none, false => Text.occursIn p.source.toList text.toList
  | none, true => p.source.toList.isPrefixOf text.toList

theorem ofSource?_eq_none_iff (compile : String → Option Regex.Compiled) (source : String) :
    ofSource? compile source = none ↔ source = "" := by
  unfold ofSource?
  split <;> simp_all

end Pattern

end Widgetry
