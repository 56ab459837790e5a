import Widgetry.Text.Hex

/-!
# Keys

Tabs and other keyed parts get short keys of their own. Where the keys come from is left open: a
supply gives one key after the other, and whatever needs a key draws it from the supply. `Drawing`
is a computation that may draw.
-/

namespace Widgetry

/-- An endless supply of keys, of which the first `used` are taken. -/
structure KeySupply where
  key : Nat → String
  used : Nat := 0

/-- A computation that may draw keys. -/
abbrev Drawing := StateM KeySupply

namespace KeySupply

/-- Draws the next key. -/
def draw : Drawing String :=
  fun supply => (supply.key supply.used, { supply with used := supply.used + 1 })

/-- The result of a computation that draws from the supply, which is then forgotten. -/
def eval {α : Type} (supply : KeySupply) (d : Drawing α) : α :=
  (d.run supply).1

/-- How many hexadecimal digits a key has. -/
def keyLength : Nat := 10

/-- The keys that begin with the given digits and go on with a number. -/
def counting (lead : List Char) : KeySupply :=
  ⟨fun n => String.ofList (lead ++ Text.hexDigits (keyLength - lead.length) n), 0⟩

/-- Whether a text has the shape of a key. -/
def isKey (s : String) : Bool :=
  s.length = keyLength && s.toList.all fun c => c.isDigit || ('a' ≤ c && c ≤ 'f')

end KeySupply

end Widgetry
