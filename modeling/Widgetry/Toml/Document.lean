import Widgetry.Toml.Scalar

/-!
# Reading TOML text

Values nest in arrays and in tables with braces. A document is a list of statements, each on a line
of its own: headers, and names with their values.
-/

namespace Widgetry.Toml

namespace Scan

/-- Reads the items of an array up to its closing bracket. -/
def items (element : Scan Toml) : Nat → Scan (List Toml)
  | 0 => failure
  | limit + 1 => do
    layout
    if ← skip ']' then return []
    let v ← element
    layout
    if ← skip ',' then return v :: (← items element limit)
    exactly [']']
    return [v]

/-- Reads an array. It has fewer items than the text has characters. -/
def array (element : Scan Toml) : Scan Toml := do
  exactly ['[']
  return .array (← items element (← get).length)

/-- Reads a name, an equals sign, and a value. -/
def entry (element : Scan Toml) : Scan (List String × Toml) := do
  let path ← name
  exactly ['=']
  blanks
  return (path, ← element)

/-- Reads the entries of a table with braces up to the closing one. -/
def entries (element : Scan Toml) : Nat → Scan (List (List String × Toml))
  | 0 => failure
  | limit + 1 => do
    let e ← entry element
    blanks
    if ← skip ',' then return e :: (← entries element limit)
    exactly ['\x7d']
    return [e]

/-- Reads a table with braces. -/
def inlineTable (element : Scan Toml) : Scan Toml := do
  exactly ['\x7b']
  blanks
  let es ← if ← skip '\x7d' then pure [] else entries element (← get).length
  ofEntries? es

/-- Reads a value in which containers nest to a limited depth. -/
def value : Nat → Scan Toml
  | 0 => scalar
  | depth + 1 => scalar <|> array (value depth) <|> inlineTable (value depth)

/-- Reads a header. -/
def header : Scan Statement := do
  exactly ['[']
  if ← skip '[' then
    let path ← name
    exactly [']', ']']
    return .header true path
  else
    let path ← name
    exactly [']']
    return .header false path

/-- Reads a statement and the end of its line. -/
def statement : Scan Statement := do
  let line ← header <|> (do let (path, v) ← entry (value depthLimit); return .entry path v)
  endOfLine
  return line

/-- Reads the statements up to the end of a text. -/
def statements : Nat → Scan (List Statement)
  | 0 => failure
  | limit + 1 => do
    layout
    if (← get) = [] then return []
    let line ← statement
    return line :: (← statements limit)

end Scan

/-- A text without the mark for its byte order. -/
def dropMark : List Char → List Char
  | '\ufeff' :: rest => rest
  | s => s

/-- The document that a text writes. -/
def read? (text : String) : Option Entries :=
  let s := dropMark text.toList
  ((Scan.statements (s.length + 1)).run s).bind fun (lines, _) => ofStatements? lines

end Widgetry.Toml
