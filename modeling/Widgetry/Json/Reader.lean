import Widgetry.Json.Literal
import Widgetry.Json.Printer
import Widgetry.Text.Hex

/-!
# Reading JSON text

A text is cut into tokens, and the tokens are folded into a value: the state of the fold is the
list of places that wait for a value, innermost first, and the position in the innermost open
container. Containers nest at most 127 deep. Of two fields with one name the later counts.
-/

namespace Widgetry.Json

/-- The parts of a JSON text. -/
inductive Token where
  | openArray
  | closeArray
  | openObject
  | closeObject
  | comma
  | colon
  | string (s : String)
  | scalar (v : Json)
deriving Inhabited

/-- The character that two halves of a surrogate pair stand for. -/
def ofSurrogates? (high low : Nat) : Option Char :=
  if 0xD800 ≤ high ∧ high < 0xDC00 ∧ 0xDC00 ≤ low ∧ low < 0xE000 then
    some (Char.ofNat (0x10000 + (high - 0xD800) * 0x400 + (low - 0xDC00)))
  else none

/-- The character that stands after a backslash for another one. -/
def unescape? : Char → Option Char
  | '"' => some '"'
  | '\\' => some '\\'
  | '/' => some '/'
  | 'b' => some '\x08'
  | 'f' => some '\x0c'
  | 'n' => some '\n'
  | 'r' => some '\r'
  | 't' => some '\t'
  | _ => none

/-- Cuts the text after the opening quote of a string at the closing one, which no backslash
precedes. `read` holds the characters before, last first. -/
def cutString? (read : List Char) : List Char → Option (List Char × List Char)
  | '"' :: rest => some (read.reverse, rest)
  | '\\' :: c :: rest => cutString? (c :: '\\' :: read) rest
  | c :: rest => cutString? (c :: read) rest
  | [] => none

/-- The characters that the text between the quotes of a string stands for, after those in `read`
(last first). No character below the blank stands for itself. -/
def decodeString? (read : List Char) : List Char → Option (List Char)
  | [] => some read.reverse
  | '\\' :: 'u' :: a :: b :: c :: d :: rest =>
    match Text.readHex? [a, b, c, d] with
    | none => none
    | some n =>
      if 0xD800 ≤ n ∧ n < 0xE000 then
        match rest with
        | '\\' :: 'u' :: e :: f :: g :: h :: more =>
          match (Text.readHex? [e, f, g, h]).bind (ofSurrogates? n) with
          | some x => decodeString? (x :: read) more
          | none => none
        | _ => none
      else decodeString? (Char.ofNat n :: read) rest
  | '\\' :: c :: rest =>
    match unescape? c with
    | some x => decodeString? (x :: read) rest
    | none => none
  | c :: rest => if c.toNat < 0x20 then none else decodeString? (c :: read) rest

/-- What follows a string is shorter than the text it was cut from. -/
theorem length_of_cutString? {read s t r : List Char} (h : cutString? read s = some (t, r)) :
    r.length < s.length := by
  fun_induction cutString? read s with
  | case1 => simp_all
  | case2 _ _ _ ih => have := ih h; simp; omega
  | case3 _ _ _ _ _ ih => have := ih h; simp; omega
  | case4 => simp at h

/-- Whether a character separates tokens. -/
def isBlank (c : Char) : Bool :=
  c = ' ' || c = '\n' || c = '\t' || c = '\r'

/-- Whether a character can stand in a number. -/
def isNumeral (c : Char) : Bool :=
  c.isDigit || c = '-' || c = '+' || c = '.' || c = 'e' || c = 'E'

/-- The token of a character that is a token by itself. -/
def mark? : Char → Option Token
  | '[' => some .openArray
  | ']' => some .closeArray
  | '\x7b' => some .openObject
  | '\x7d' => some .closeObject
  | ',' => some .comma
  | ':' => some .colon
  | _ => none

/-- The value of a word. -/
def word? (word : List Char) : Option Json :=
  if word = ['t', 'r', 'u', 'e'] then some (.bool true)
  else if word = ['f', 'a', 'l', 's', 'e'] then some (.bool false)
  else if word = ['n', 'u', 'l', 'l'] then some .null
  else none

theorem length_dropWhile_le (p : Char → Bool) (s : List Char) :
    (s.dropWhile p).length ≤ s.length :=
  (List.dropWhile_sublist p).length_le

/-- The tokens of a text, after those in `read` (last first). -/
def tokens? (read : List Token) : List Char → Option (List Token)
  | [] => some read.reverse
  | c :: rest =>
    if isBlank c then tokens? read rest
    else match mark? c with
    | some token => tokens? (token :: read) rest
    | none =>
      if c = '"' then
        match _h : cutString? [] rest with
        | some (body, after) =>
          match decodeString? [] body with
          | some text => tokens? (.string (String.ofList text) :: read) after
          | none => none
        | none => none
      else if isNumeral c then
        match Number.ofText? (c :: rest.takeWhile isNumeral) with
        | some n => tokens? (.scalar (.num n) :: read) (rest.dropWhile isNumeral)
        | none => none
      else
        match word? (c :: rest.takeWhile Char.isAlpha) with
        | some v => tokens? (.scalar v :: read) (rest.dropWhile Char.isAlpha)
        | none => none
termination_by s => s.length
decreasing_by
  all_goals simp only [List.length_cons]
  · omega
  · omega
  · have := length_of_cutString? _h
    omega
  · have := length_dropWhile_le isNumeral rest
    omega
  · have := length_dropWhile_le Char.isAlpha rest
    omega

/-- A place that waits for a value: the next item of an array after those read (last first), or
a field of an object. -/
inductive Place where
  | item (before : List Json)
  | field (before : Fields) (name : String)

/-- The position in the innermost open container, or of the whole value. -/
inductive Position where
  | value
  | arrayStart
  | afterItem (items : List Json)
  | objectStart
  | nextName (fields : Fields)
  | colon (fields : Fields) (name : String)
  | afterField (fields : Fields)
  | done (v : Json)

/-- What has been read: the waiting places, innermost first, and the position. -/
structure State where
  waiting : List Place
  position : Position

/-- How deep containers may nest. -/
def maxDepth : Nat := 127

/-- Puts a value into the innermost waiting place. -/
def State.fill (waiting : List Place) (v : Json) : State :=
  match waiting with
  | [] => ⟨[], .done v⟩
  | .item before :: outer => ⟨outer, .afterItem (v :: before)⟩
  | .field before name :: outer => ⟨outer, .afterField (before.insert name v)⟩

/-- Begins the value of the innermost waiting place with a token. -/
def State.begin? (waiting : List Place) : Token → Option State
  | .scalar v => some (fill waiting v)
  | .string s => some (fill waiting (.str s))
  | .openArray => if waiting.length < maxDepth then some ⟨waiting, .arrayStart⟩ else none
  | .openObject => if waiting.length < maxDepth then some ⟨waiting, .objectStart⟩ else none
  | _ => none

/-- The state after one more token. -/
def State.next? (s : State) (token : Token) : Option State :=
  match s.position, token with
  | .value, token => begin? s.waiting token
  | .arrayStart, .closeArray => some (fill s.waiting (.arr []))
  | .arrayStart, token => begin? (.item [] :: s.waiting) token
  | .afterItem items, .comma => some ⟨.item items :: s.waiting, .value⟩
  | .afterItem items, .closeArray => some (fill s.waiting (.arr items.reverse))
  | .objectStart, .closeObject => some (fill s.waiting (.obj []))
  | .objectStart, .string name => some ⟨s.waiting, .colon [] name⟩
  | .nextName fields, .string name => some ⟨s.waiting, .colon fields name⟩
  | .colon fields name, .colon => some ⟨.field fields name :: s.waiting, .value⟩
  | .afterField fields, .comma => some ⟨s.waiting, .nextName fields⟩
  | .afterField fields, .closeObject => some (fill s.waiting (.obj fields))
  | _, _ => none

/-- The value that a list of tokens writes. -/
def ofTokens? (tokens : List Token) : Option Json :=
  match tokens.foldlM State.next? ⟨[], .value⟩ with
  | some ⟨_, .done v⟩ => some v
  | _ => none

/-- The value that a JSON text writes. -/
def read? (text : String) : Option Json :=
  (tokens? [] text.toList).bind ofTokens?

example : (read? "[1, -0.5, \"a\\u00e9\"]").map write = some "[1,-0.5,\"aé\"]" := by decide +kernel

end Widgetry.Json
