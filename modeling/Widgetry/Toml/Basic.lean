import Widgetry.Number.Binary64
import Widgetry.Table

/-!
# TOML documents

A document is a table: a dictionary of values under names. A table remembers how it came about,
because that decides what may still be added to it: a table that a header or braces have defined is
not defined again, and dotted names only extend tables that dotted names have made.
-/

namespace Widgetry

namespace Toml

/-- How a table came about. -/
inductive Origin where
  /-- Written with braces. -/
  | inline
  /-- Defined by a header, or the document itself. -/
  | header
  /-- On the way to a table that a header defines. -/
  | implied
  /-- On the way to a value with a dotted name. -/
  | dotted
deriving DecidableEq, Inhabited

end Toml

/-- A value of a TOML document. -/
inductive Toml where
  | text (s : String)
  | integer (n : Int)
  | float (x : Binary64)
  | bool (b : Bool)
  /-- A date, a time, or both. -/
  | moment (text : String)
  | array (items : List Toml)
  | table (origin : Toml.Origin) (entries : List (String × Toml))
  /-- The tables of headers with double brackets. -/
  | tables (elements : List (List (String × Toml)))
deriving Inhabited

namespace Toml

/-- The values of a table by their names. -/
abbrev Entries := Table String Toml

/-- Changes the table at the end of a path, where `dotted` says whether the path is a dotted name
or that of a header. Tables that are missing on the way are made. Values, tables with braces, and
for dotted names also tables with headers are not entered; of the tables of a header with double
brackets the last is. -/
def changeAt (change : Origin → Entries → Option Entries) (dotted : Bool) :
    List String → Origin → Entries → Option Entries
  | [], origin, entries => change origin entries
  | name :: path, _, entries =>
    match entries.get? name with
    | none => do
      let origin := if dotted then .dotted else .implied
      let made ← changeAt change dotted path origin []
      some (entries.insert name (.table origin made))
    | some (.table origin old) => do
      if origin = .inline ∨ dotted ∧ origin = .header then none
      let new ← changeAt change dotted path origin old
      some (entries.insert name (.table origin new))
    | some (.tables elements) => do
      let last ← elements.getLast?
      let new ← changeAt change dotted path .header last
      some (entries.insert name (.tables (elements.dropLast ++ [new])))
    | some _ => none

/-- Adds a value under a name that is not taken. A dotted name ends in a table that dotted names
have made, a plain name in one that they have not. -/
def addValue (dotted : Bool) (name : String) (v : Toml) (origin : Origin) (entries : Entries) :
    Option Entries :=
  if decide (origin = .dotted) ≠ dotted ∨ entries.contains name then none
  else some (entries.insert name v)

/-- Adds a value to a table under a name of one or more parts. -/
def addEntry (name : List String) (v : Toml) (origin : Origin) (entries : Entries) :
    Option Entries := do
  let last ← name.getLast?
  let path := name.dropLast
  changeAt (addValue (path ≠ []) last v) true path origin entries

/-- Defines a table by a header, unless something other than an implied table has its name. -/
def addTable (name : String) (_ : Origin) (entries : Entries) : Option Entries :=
  match entries.get? name with
  | none => some (entries.insert name (.table .header []))
  | some (.table .implied old) => some (entries.insert name (.table .header old))
  | some _ => none

/-- Adds a table to those of a header with double brackets. -/
def addElement (name : String) (_ : Origin) (entries : Entries) : Option Entries :=
  match entries.get? name with
  | none => some (entries.insert name (.tables [[]]))
  | some (.tables elements) => some (entries.insert name (.tables (elements ++ [[]])))
  | some _ => none

/-- The table of the entries between braces. -/
def ofEntries? (entries : List (List String × Toml)) : Option Toml :=
  (entries.foldlM (fun table entry => addEntry entry.1 entry.2 .header table) []).map
    (.table .inline)

/-- A line of a document. -/
inductive Statement where
  /-- A header, with single or double brackets. -/
  | header (double : Bool) (path : List String)
  | entry (name : List String) (v : Toml)

/-- The document after another line, and the path of the table to which entries are added. -/
def step (document : Entries × List String) (line : Statement) :
    Option (Entries × List String) :=
  match line with
  | .header double path => do
    let last ← path.getLast?
    let add := if double then addElement last else addTable last
    let root ← changeAt add false path.dropLast .header document.1
    some (root, path)
  | .entry name v => do
    let root ← changeAt (addEntry name v) false document.2 .header document.1
    some (root, document.2)

/-- The document of a list of lines. -/
def ofStatements? (lines : List Statement) : Option Entries :=
  (lines.foldlM step ([], [])).map Prod.fst

end Toml

end Widgetry
