import Widgetry.Json.Basic

/-!
# JSON pointers

A pointer is a path into a value: names of fields and places of items, each after a slash. In a
name, `~1` stands for a slash and `~0` for a tilde. The place of an item is written without a sign
and without needless zeros.
-/

namespace Widgetry.Json

/-- The parts of a text between slashes. -/
def splitSlashes : List Char → List (List Char)
  | [] => [[]]
  | c :: rest =>
    if c = '/' then [] :: splitSlashes rest
    else match splitSlashes rest with
    | part :: parts => (c :: part) :: parts
    | [] => [[c]]

/-- The name that a part of a pointer stands for. -/
def decodeStep : List Char → List Char
  | '~' :: '1' :: rest => '/' :: decodeStep rest
  | '~' :: '0' :: rest => '~' :: decodeStep rest
  | c :: rest => c :: decodeStep rest
  | [] => []

/-- The place that a name writes. -/
def place? (name : List Char) : Option Nat :=
  if name ≠ [] ∧ name.all Char.isDigit ∧ (name.head? ≠ some '0' ∨ name.length = 1) then
    some (Decimal.ofDigits name)
  else none

/-- The field or the item of a value under a name. -/
def step? (v : Json) (name : List Char) : Option Json :=
  match v with
  | .obj fields => Table.get? fields (String.ofList name)
  | .arr items => (place? name).bind fun i => items[i]?
  | _ => none

/-- The value at the end of a path. -/
def follow? (v : Json) (path : List (List Char)) : Option Json :=
  path.foldlM (fun v part => v.step? (decodeStep part)) v

/-- The value that a pointer after its first slash leads to. -/
def pointer? (v : Json) (path : List Char) : Option Json :=
  v.follow? (splitSlashes path)

end Widgetry.Json
