import Widgetry.Expr.Error

/-!
# Tokens of expressions

The text of an expression is cut into lexemes from left to right, with blanks of ASCII between
them. A lexeme keeps the characters that it was read from and their place, so the lexemes and the
blanks between them are the text again.
-/

namespace Widgetry

/-- The marks of operators and brackets. -/
inductive Mark where
  | strictEq
  | strictNe
  | looseEq
  | looseNe
  | le
  | ge
  | and
  | or
  | lt
  | gt
  | not
  | plus
  | minus
  | star
  | slash
  | percent
  | question
  | colon
  | dot
  | comma
  | openParen
  | closeParen
  | openBracket
  | closeBracket
deriving DecidableEq

namespace Mark

def chars : Mark → List Char
  | strictEq => ['=', '=', '=']
  | strictNe => ['!', '=', '=']
  | looseEq => ['=', '=']
  | looseNe => ['!', '=']
  | le => ['<', '=']
  | ge => ['>', '=']
  | and => ['&', '&']
  | or => ['|', '|']
  | lt => ['<']
  | gt => ['>']
  | not => ['!']
  | plus => ['+']
  | minus => ['-']
  | star => ['*']
  | slash => ['/']
  | percent => ['%']
  | question => ['?']
  | colon => [':']
  | dot => ['.']
  | comma => [',']
  | openParen => ['(']
  | closeParen => [')']
  | openBracket => ['[']
  | closeBracket => [']']

def text (mark : Mark) : String :=
  String.ofList mark.chars

/-- All marks, so that none comes before a longer one that it begins. -/
def all : List Mark :=
  [strictEq, strictNe, looseEq, looseNe, le, ge, and, or, lt, gt, not, plus, minus, star, slash,
    percent, question, colon, dot, comma, openParen, closeParen, openBracket, closeBracket]

/-- The longest mark that a text begins with. -/
def begin? (s : List Char) : Option Mark :=
  all.find? fun mark => mark.chars.isPrefixOf s

end Mark

/-- The smallest parts of an expression. -/
inductive Token where
  | number (x : Binary64)
  | string (s : String)
  | ident (name : String)
  | mark (mark : Mark)
deriving DecidableEq

/-- A token with the characters that it was read from and the place of the first one, in bytes. -/
structure Lexeme where
  token : Token
  text : List Char
  offset : Nat
deriving DecidableEq

namespace Lexeme

/-- Whether a character separates lexemes. -/
def isBlank (c : Char) : Bool :=
  c = ' ' || c = '\t' || c = '\n' || c = '\x0c' || c = '\r'

/-- Whether a name can begin with a character. -/
def isNameStart (c : Char) : Bool :=
  c.isAlpha || c = '_' || c = '$'

/-- Whether a name can go on with a character. -/
def isNameChar (c : Char) : Bool :=
  c.isAlphanum || c = '_' || c = '$'

/-- Whether a character can stand in a number before its exponent. -/
def isNumeral (c : Char) : Bool :=
  c.isDigit || c = '.'

/-- How many characters the exponent at the beginning of a text has. Without a digit there is
none. -/
def exponentLength : List Char → Nat
  | [] => 0
  | e :: rest =>
    if e = 'e' ∨ e = 'E' then
      let (sign, digits) := match rest with
        | c :: more => if c = '+' ∨ c = '-' then (1, more) else (0, rest)
        | [] => (0, rest)
      let n := (digits.takeWhile Char.isDigit).length
      if n = 0 then 0 else 1 + sign + n
    else 0

/-- How many characters the number at the beginning of a text has. -/
def numberLength (s : List Char) : Nat :=
  (s.takeWhile isNumeral).length + exponentLength (s.dropWhile isNumeral)

/-- The character that a backslash and another character stand for. -/
def unescape : Char → Char
  | 'n' => '\n'
  | 't' => '\t'
  | 'r' => '\r'
  | c => c

/-- Reads a string up to its closing quote: its characters after those in `read` (the last first),
and how many characters that takes in addition to `count`. -/
def readString? (quote : Char) (read : List Char) (count : Nat) :
    List Char → Option (List Char × Nat)
  | [] => none
  | '\\' :: c :: rest => readString? quote (unescape c :: read) (count + 2) rest
  | c :: rest =>
    if c = quote then some (read.reverse, count + 1)
    else readString? quote (c :: read) (count + 1) rest

/-- The token at the beginning of a text that starts with `c`, and how many characters it has
after `c`. -/
def scan (c : Char) (rest : List Char) : Except SyntaxError (Token × Nat) :=
  if c.isDigit || (c = '.' && rest.head?.any Char.isDigit) then
    let n := numberLength (c :: rest)
    let text := (c :: rest).take n
    match Decimal.readBinary64? text with
    | some x => .ok (.number x, n - 1)
    | none => .error (.invalidNumber text)
  else if c = '"' || c = '\'' then
    match readString? c [] 0 rest with
    | some (s, n) => .ok (.string (String.ofList s), n)
    | none => .error .unterminatedString
  else if isNameStart c then
    let more := rest.takeWhile isNameChar
    .ok (.ident (String.ofList (c :: more)), more.length)
  else match Mark.begin? (c :: rest) with
  | some mark => .ok (.mark mark, mark.chars.length - 1)
  | none => .error (.unexpectedCharacter c)

/-- The number of bytes of a text. -/
def byteSize : List Char → Nat
  | [] => 0
  | c :: rest => c.utf8Size + byteSize rest

/-- The lexemes of a text that begins at `offset`, after those in `read` (the last first). -/
def readAll (read : List Lexeme) (offset : Nat) : List Char → Except ExprError (List Lexeme)
  | [] => .ok read.reverse
  | c :: rest =>
    if isBlank c then readAll read (offset + c.utf8Size) rest
    else
      match scan c rest with
      | .error cause => .error (.syntaxError cause offset)
      | .ok (token, more) =>
        let text := c :: rest.take more
        readAll (⟨token, text, offset⟩ :: read) (offset + byteSize text) (rest.drop more)
termination_by s => s.length
decreasing_by
  · simp
  · simp only [List.length_drop, List.length_cons]
    omega

/-- The lexemes of a text. -/
def ofText (s : List Char) : Except ExprError (List Lexeme) :=
  readAll [] 0 s

end Lexeme

end Widgetry
