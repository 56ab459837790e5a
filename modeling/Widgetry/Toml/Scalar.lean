import Widgetry.Number.Decimal
import Widgetry.Toml.Scan

/-!
# Scalars of TOML

Numbers, moments and truth values. Integers have 64 bits with a sign; single underscores may stand
between the digits of a number.
-/

namespace Widgetry.Toml.Scan

/-- The digits of a group, in which single underscores stand between digits, and what follows. -/
def groupedDigits (isDigit : Char → Bool) : List Char → List Char × List Char
  | '_' :: d :: rest =>
    if isDigit d then
      let (ds, after) := groupedDigits isDigit rest
      (d :: ds, after)
    else ([], '_' :: d :: rest)
  | d :: rest =>
    if isDigit d then
      let (ds, after) := groupedDigits isDigit rest
      (d :: ds, after)
    else ([], d :: rest)
  | [] => ([], [])

/-- Reads a group of digits. -/
def digits (isDigit : Char → Bool) : Scan (List Char) := do
  let first ← one isDigit
  let rest ← (fun s => some (groupedDigits isDigit s) : Scan (List Char))
  return first :: rest

/-- Reads a sign, if there is one. -/
def sign : Scan (List Char) := do
  if ← skip '-' then return ['-']
  let _ ← skip '+'
  return []

/-- Reads the digits of an integer, which begin with zero only if that is all. -/
def whole : Scan (List Char) := do
  if ← skip '0' then return ['0'] else digits Char.isDigit

/-- An integer of 64 bits. -/
def word? (n : Int) : Option Toml :=
  if -0x8000000000000000 ≤ n ∧ n < 0x8000000000000000 then some (.integer n) else none

/-- Reads an integer with a mark for its base. -/
def basedInteger (base : Nat) (mark : Char) (isDigit : Char → Bool) : Scan Toml := do
  exactly ['0', mark]
  let ds ← digits isDigit
  word? (ds.foldl (fun n d => base * n + ((Text.hexDigit? d).getD 0 : Nat)) (0 : Nat))

def decimalInteger : Scan Toml := do
  let minus ← sign
  let n := Decimal.ofDigits (← whole)
  word? (if minus = [] then n else -(n : Int))

def integer : Scan Toml :=
  basedInteger 16 'x' (fun c => (Text.hexDigit? c).isSome) <|>
    basedInteger 8 'o' (fun c => '0' ≤ c && c ≤ '7') <|>
    basedInteger 2 'b' (fun c => c = '0' || c = '1') <|>
    decimalInteger

/-- Reads a fraction with its point. -/
def fraction : Scan (List Char) := do
  exactly ['.']
  return '.' :: (← digits Char.isDigit)

/-- Reads an exponent with its mark. -/
def exponent : Scan (List Char) := do
  let _ ← one fun c => c = 'e' || c = 'E'
  let minus ← sign
  return 'e' :: minus ++ (← digits Char.isDigit)

/-- Reads a number with a fraction or an exponent. One that is beyond the largest float is none,
save in the negative. -/
def decimalFloat : Scan Toml := do
  let minus ← sign
  let n ← whole
  let tail ← (do return (← fraction) ++ ((← optional exponent).getD [])) <|> exponent
  let x ← (Decimal.readBinary64? (minus ++ n ++ tail) : Option Binary64)
  if x = .infinite false then failure else return .float x

/-- Reads the name of a number that is not finite. -/
def namedFloat : Scan Toml := do
  let minus ← sign
  (do exactly ['i', 'n', 'f']; return .float (.infinite (minus ≠ []))) <|>
    (do exactly ['n', 'a', 'n']; return .float .nan)

/-- Reads a number of so many digits between two bounds. -/
def field (width least most : Nat) : Scan Nat := fun s =>
  let ds := s.take width
  let n := Decimal.ofDigits ds
  if ds.length = width ∧ ds.all Char.isDigit ∧ least ≤ n ∧ n ≤ most then some (n, s.drop width)
  else none

/-- The number of days of a month. -/
def daysOfMonth (year month : Nat) : Nat :=
  if month = 2 then if year % 4 = 0 ∧ (year % 100 ≠ 0 ∨ year % 400 = 0) then 29 else 28
  else if month ∈ [4, 6, 9, 11] then 30
  else 31

def date : Scan Unit := do
  let year ← field 4 0 9999
  exactly ['-']
  let month ← field 2 1 12
  exactly ['-']
  let _ ← field 2 1 (daysOfMonth year month)

/-- Reads a time of a day, which may have a leap second and a fraction of a second. -/
def time : Scan Unit := do
  let _ ← field 2 0 23
  exactly [':']
  let _ ← field 2 0 59
  exactly [':']
  let _ ← field 2 0 60
  let _ ← optional (do exactly ['.']; many1 Char.isDigit)

/-- Reads the distance of a time zone. -/
def offset : Scan Unit := do
  let c ← one (· ∈ ['Z', 'z', '+', '-'])
  if c = '+' ∨ c = '-' then
    let _ ← field 2 0 23
    exactly [':']
    let _ ← field 2 0 59

/-- Reads a time after a date. -/
def timeAfterDate : Scan Unit := do
  let _ ← one (· ∈ ['T', 't', ' '])
  time
  let _ ← optional offset

def moment : Scan Toml := do
  let before ← get
  (do date; let _ ← optional timeAfterDate) <|> time
  let after ← get
  return .moment (String.ofList (before.take (before.length - after.length)))

def truth : Scan Toml :=
  (do exactly ['t', 'r', 'u', 'e']; return .bool true) <|>
    (do exactly ['f', 'a', 'l', 's', 'e']; return .bool false)

/-- Reads a value that is no container. -/
def scalar : Scan Toml :=
  .text <$> string <|> moment <|> decimalFloat <|> namedFloat <|> integer <|> truth

end Widgetry.Toml.Scan
