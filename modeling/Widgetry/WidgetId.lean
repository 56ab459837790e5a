import Widgetry.Text.Hex

/-!
# Widget ids

Every widget has an id of 128 bits for its whole life. It is written as hexadecimal digits in five
groups with hyphens between them, in lower case, and read in that form, with braces or a prefix
around it, or without hyphens, in any letter case. Ids are ordered as numbers, so ids whose first
bits are the time of their making sort by age.
-/

namespace Widgetry

/-- The id of a widget. -/
structure WidgetId where
  bits : BitVec 128
deriving DecidableEq, Inhabited

namespace WidgetId

instance : LT WidgetId := ⟨fun a b => a.bits < b.bits⟩

instance : DecidableLT WidgetId :=
  fun a b => inferInstanceAs (Decidable (a.bits < b.bits))

instance : Std.Irrefl ((· < ·) : WidgetId → WidgetId → Prop) :=
  ⟨fun a => BitVec.lt_irrefl a.bits⟩

instance : Trans ((· < ·) : WidgetId → WidgetId → Prop) ((· < ·) : WidgetId → WidgetId → Prop)
    ((· < ·) : WidgetId → WidgetId → Prop) :=
  ⟨fun {a b c} (h : a.bits < b.bits) (h' : b.bits < c.bits) => BitVec.lt_trans h h'⟩

instance : Std.Trichotomous ((· < ·) : WidgetId → WidgetId → Prop) :=
  ⟨fun a b h h' =>
    have heq : a.bits = b.bits := BitVec.le_antisymm (BitVec.not_lt.1 h') (BitVec.not_lt.1 h)
    congrArg mk heq⟩

/-- The order of two ids. -/
def order (a b : WidgetId) : Ordering :=
  compare a.bits.toNat b.bits.toNat

/-- The characters in which an id is written. -/
def toChars (id : WidgetId) : List Char :=
  let digits := Text.hexDigits 32 id.bits.toNat
  digits.take 8 ++ '-' :: (digits.drop 8).take 4 ++ '-' :: (digits.drop 12).take 4 ++
    '-' :: (digits.drop 16).take 4 ++ '-' :: digits.drop 20

/-- The text of an id. -/
def toText (id : WidgetId) : String :=
  String.ofList id.toChars

/-- The id that 32 hexadecimal digits write. -/
def ofDigits? (digits : List Char) : Option WidgetId :=
  if digits.length = 32 then (Text.readHex? digits).map fun n => ⟨.ofNat 128 n⟩ else none

/-- The id that five groups of digits with hyphens between them write. -/
def ofGroups? (s : List Char) : Option WidgetId :=
  if s.length = 36 ∧ [8, 13, 18, 23].all fun i => s[i]? = some '-' then
    ofDigits? (s.take 8 ++ (s.drop 9).take 4 ++ (s.drop 14).take 4 ++ (s.drop 19).take 4 ++
      s.drop 24)
  else none

/-- The prefix of an id that is a resource name, which may be written in any letter case. -/
def resourceLead : List Char := "urn:uuid:".toList

/-- The id that characters write, in any of the accepted forms. -/
def ofChars? (s : List Char) : Option WidgetId :=
  if s.length = 32 then ofDigits? s
  else if s.head? = some '\x7b' ∧ s.getLast? = some '\x7d' then ofGroups? s.tail.dropLast
  else if (s.take resourceLead.length).map Char.toLower = resourceLead then
    ofGroups? (s.drop resourceLead.length)
  else ofGroups? s

/-- The id that a text writes. -/
def ofText? (s : String) : Option WidgetId :=
  ofChars? s.toList

/-- An id made at a time in milliseconds, with bits that tell ids of one time apart. The version
is 7: the time fills the first 48 bits, and 74 of the other bits are free. -/
def made (time free : Nat) : WidgetId :=
  ⟨BitVec.ofNat 48 time ++ 7#4 ++ BitVec.ofNat 12 (free >>> 62) ++ 2#2 ++ BitVec.ofNat 62 free⟩

/-- The version of an id. -/
def version (id : WidgetId) : Nat :=
  (id.bits.extractLsb' 76 4).toNat

example : (ofText? "URN:uuid:018F4E2A-7b3c-7def-8123-456789abcdef").map toText =
    some "018f4e2a-7b3c-7def-8123-456789abcdef" := by decide +kernel
example : (made 1700000000000 5).version = 7 := by decide +kernel

end WidgetId

end Widgetry
