import Widgetry.Text.Hex
import Widgetry.Toml.Basic

/-!
# Parts of TOML text

A scan reads a part at the beginning of a text and leaves the rest, or fails. Here are the scans for
blanks, names and strings.
-/

namespace Widgetry.Toml

/-- Reads a part at the beginning of a text. -/
abbrev Scan := StateT (List Char) Option

namespace Scan

/-- Reads a character of a class. -/
def one (accept : Char → Bool) : Scan Char := fun s =>
  match s with
  | c :: rest => if accept c then some (c, rest) else none
  | [] => none

/-- Reads a given text. -/
def exactly (text : List Char) : Scan Unit := fun s =>
  if text.isPrefixOf s then some ((), s.drop text.length) else none

/-- Reads a given character if it comes next, and says whether it did. -/
def skip (c : Char) : Scan Bool := fun s =>
  match s with
  | d :: rest => if d = c then some (true, rest) else some (false, s)
  | [] => some (false, s)

/-- Reads characters of a class, as many as there are. -/
def many (accept : Char → Bool) : Scan (List Char) := fun s =>
  some (s.takeWhile accept, s.dropWhile accept)

/-- Reads at least one character of a class, and as many as there are. -/
def many1 (accept : Char → Bool) : Scan (List Char) := do
  let cs ← many accept
  if cs = [] then failure else return cs

end Scan

/-- The blanks within a line. -/
def isBlank (c : Char) : Bool :=
  c = ' ' || c = '\t'

/-- Whether a character may stand for itself in a line: a tab, or no control character. -/
def isPlain (c : Char) : Bool :=
  c = '\t' || (' ' ≤ c && c ≠ '\x7f')

/-- Takes blanks, ends of lines and comments off a text. A comment that holds a control character
ends there, where nothing can go on. -/
def dropLayout (inComment : Bool) : List Char → List Char
  | '\n' :: rest => dropLayout false rest
  | '\r' :: '\n' :: rest => dropLayout false rest
  | c :: rest =>
    if inComment then if isPlain c then dropLayout true rest else c :: rest
    else if isBlank c then dropLayout false rest
    else if c = '#' then dropLayout true rest
    else c :: rest
  | [] => []

/-- Cuts the text after an opening quote at the closing one. Between double quotes, a backslash
takes the next character along. `read` holds the characters before, last first. -/
def cutLine? (quote : Char) (read : List Char) : List Char → Option (List Char × List Char)
  | [] => none
  | c :: rest =>
    if c = quote then some (read.reverse, rest)
    else if c = '\\' ∧ quote = '"' then
      match rest with
      | e :: more => cutLine? quote (e :: c :: read) more
      | [] => none
    else cutLine? quote (c :: read) rest

/-- Cuts the text after three opening quotes at the closing ones. Up to two more quotes before them
belong to the text. -/
def cutBlock? (quote : Char) (read : List Char) : List Char → Option (List Char × List Char)
  | [] => none
  | c :: rest =>
    if c = quote ∧ rest.take 2 = [quote, quote] then
      let more := ((rest.drop 2).takeWhile (· = quote)).take 2
      some (read.reverse ++ more, (rest.drop 2).drop more.length)
    else if c = '\\' ∧ quote = '"' then
      match rest with
      | e :: more => cutBlock? quote (e :: c :: read) more
      | [] => none
    else cutBlock? quote (c :: read) rest

/-- The text with every end of a line written in one way. -/
def unifyLines : List Char → List Char
  | '\r' :: '\n' :: rest => '\n' :: unifyLines rest
  | c :: rest => c :: unifyLines rest
  | [] => []

/-- The character that stands after a backslash for another one. -/
def unescape? : Char → Option Char
  | 'b' => some '\x08'
  | 't' => some '\t'
  | 'n' => some '\n'
  | 'f' => some '\x0c'
  | 'r' => some '\r'
  | '"' => some '"'
  | '\\' => some '\\'
  | _ => none

/-- The character with a number in hexadecimal digits. -/
def charOfHex? (digits : List Char) : Option Char :=
  (Text.readHex? digits).bind fun n => if n.isValidChar then some (Char.ofNat n) else none

/-- Whether a character may stand for itself in a string; the end of a line only in a block. -/
def isAllowed (block : Bool) (c : Char) : Bool :=
  isPlain c || (block && c = '\n')

/-- The text that a string with backslashes stands for, after the characters in `read` (last
first). In a block, a backslash at the end of a line skips all layout after it. -/
def decode? (block skipping : Bool) (read : List Char) : List Char → Option (List Char)
  | [] => some read.reverse
  | '\\' :: 'u' :: a :: b :: c :: d :: rest =>
    match charOfHex? [a, b, c, d] with
    | some x => decode? block false (x :: read) rest
    | none => none
  | '\\' :: 'U' :: a :: b :: c :: d :: e :: f :: g :: h :: rest =>
    match charOfHex? [a, b, c, d, e, f, g, h] with
    | some x => decode? block false (x :: read) rest
    | none => none
  | '\\' :: c :: rest =>
    match unescape? c with
    | some x => decode? block false (x :: read) rest
    | none =>
      if block ∧ ((c :: rest).dropWhile isBlank).head? = some '\n' then
        decode? block true read rest
      else none
  | c :: rest =>
    if skipping ∧ (isBlank c ∨ c = '\n') then decode? block true read rest
    else if isAllowed block c then decode? block false (c :: read) rest
    else none

/-- A text without the end of a line at its beginning. -/
def dropFirstBreak : List Char → List Char
  | '\n' :: rest => rest
  | s => s

/-- The string between quotes of a kind. -/
def content? (quote : Char) (block : Bool) (body : List Char) : Option String :=
  if quote = '"' then (decode? block false [] body).map String.ofList
  else if body.all (isAllowed block) then some (String.ofList body)
  else none

/-- Whether a character may stand in a name without quotes. -/
def isBare (c : Char) : Bool :=
  c.isAlphanum || c = '-' || c = '_'

/-- How many parts a name may have, and how deep values may nest, at most. -/
def depthLimit : Nat := 79

namespace Scan

/-- Reads the blanks within a line. -/
def blanks : Scan Unit := do
  let _ ← many isBlank

/-- Reads blanks, ends of lines and comments. -/
def layout : Scan Unit := fun s =>
  some ((), dropLayout false s)

/-- Reads what may follow a statement: blanks, a comment, and the end of the line or of the
text. -/
def endOfLine : Scan Unit := do
  blanks
  if ← skip '#' then
    let _ ← many isPlain
  if (← get) = [] then return
  exactly ['\n'] <|> exactly ['\r', '\n']

/-- Reads a string of one line. -/
def lineString (quote : Char) : Scan String := do
  exactly [quote]
  let body ← (cutLine? quote [] : Scan (List Char))
  content? quote false body

/-- Reads a string between triple quotes. -/
def blockString (quote : Char) : Scan String := do
  exactly [quote, quote, quote]
  let body ← (cutBlock? quote [] : Scan (List Char))
  content? quote true (dropFirstBreak (unifyLines body))

/-- Reads a string of any kind. -/
def string : Scan String :=
  blockString '"' <|> lineString '"' <|> blockString '\'' <|> lineString '\''

/-- Reads a part of a name, with the blanks around it. -/
def namePart : Scan String := do
  blanks
  let part ← lineString '"' <|> lineString '\'' <|> String.ofList <$> many1 isBare
  blanks
  return part

/-- Reads the parts of a name with points between them, `limit` at most. -/
def nameParts : Nat → Scan (List String)
  | 0 => failure
  | limit + 1 => do
    let part ← namePart
    if ← skip '.' then return part :: (← nameParts limit) else return [part]

/-- Reads a name of one or more parts. -/
def name : Scan (List String) :=
  nameParts depthLimit

end Scan

end Widgetry.Toml
