import Widgetry.Json.Basic

/-!
# The text of a JSON value

The text has no blanks. In a string only the quote, the backslash and the characters below the
blank are escaped, the latter by a letter where one exists and else by four hexadecimal digits.
-/

namespace Widgetry.Json

/-- The characters that stand for one character of a string. -/
def escapeChar (c : Char) : List Char :=
  if c = '"' then ['\\', '"']
  else if c = '\\' then ['\\', '\\']
  else if c = '\n' then ['\\', 'n']
  else if c = '\r' then ['\\', 'r']
  else if c = '\t' then ['\\', 't']
  else if c = '\x08' then ['\\', 'b']
  else if c = '\x0c' then ['\\', 'f']
  else if c.toNat < 0x20 then
    ['\\', 'u', '0', '0', Nat.digitChar (c.toNat / 16), Nat.digitChar (c.toNat % 16)]
  else [c]

/-- A string between quotes, followed by `tail`. -/
def writeString (s : String) (tail : List Char) : List Char :=
  '"' :: s.toList.foldr (fun c rest => escapeChar c ++ rest) ('"' :: tail)

mutual

/-- The text of a value, followed by `tail`. -/
def writeOnto : Json → List Char → List Char
  | .null, tail => 'n' :: 'u' :: 'l' :: 'l' :: tail
  | .bool true, tail => 't' :: 'r' :: 'u' :: 'e' :: tail
  | .bool false, tail => 'f' :: 'a' :: 'l' :: 's' :: 'e' :: tail
  | .num n, tail => n.write ++ tail
  | .str s, tail => writeString s tail
  | .arr [], tail => '[' :: ']' :: tail
  | .arr (v :: rest), tail => '[' :: writeOnto v (writeItems rest tail)
  | .obj [], tail => '\x7b' :: '\x7d' :: tail
  | .obj ((k, v) :: rest), tail =>
    '\x7b' :: writeString k (':' :: writeOnto v (writeFields rest tail))

/-- The further items of an array and its end, followed by `tail`. -/
def writeItems : List Json → List Char → List Char
  | [], tail => ']' :: tail
  | v :: rest, tail => ',' :: writeOnto v (writeItems rest tail)

/-- The further fields of an object and its end, followed by `tail`. -/
def writeFields : List (String × Json) → List Char → List Char
  | [], tail => '\x7d' :: tail
  | (k, v) :: rest, tail =>
    ',' :: writeString k (':' :: writeOnto v (writeFields rest tail))

end

/-- The text of a value. -/
def write (v : Json) : String :=
  String.ofList (writeOnto v [])

example : write (.arr [.null, .str "a\"b", .obj [("k", .bool true)]]) =
    "[null,\"a\\\"b\",\x7b\"k\":true\x7d]" := by decide +kernel

end Widgetry.Json
