import Widgetry.Regex.Basic
import Widgetry.Text.Blank
import Widgetry.Text.Hex
import Widgetry.Text.Letter

/-!
# Reading a regular expression

The text of an expression is read from left to right. What has been read is the level that is
being filled (branches and parts, last first) and the groups that are open around it. The flags in
force hold to the end of the group in which they were set. Groups nest at most 50 deep, and so do
the parts of the tree.
-/

namespace Widgetry.Regex

/-- The flags in force. -/
structure Flags where
  ignoreCase : Bool := false
  multiLine : Bool := false
  dotAll : Bool := false
  crlf : Bool := false
  verbose : Bool := false
deriving DecidableEq, Inhabited

/-- A text without the blanks and comments at its beginning; a comment goes from `#` to the end
of its line. -/
def skipComments (inComment : Bool) : List Char → List Char
  | [] => []
  | c :: rest =>
    if inComment then skipComments (c ≠ '\n') rest
    else if Text.isBlank c then skipComments false rest
    else if c = '#' then skipComments true rest
    else c :: rest

/-- What there is to skip between the parts of an expression: nothing, unless it is verbose. -/
def Flags.skip (flags : Flags) (s : List Char) : List Char :=
  if flags.verbose then skipComments false s else s

/-- A character as an expression. Where case is ignored, a letter of ASCII stands for its two
cases. -/
def Flags.charNode (flags : Flags) (c : Char) : Regex :=
  if flags.ignoreCase && c.isAlpha then .set (CharSet.ofPairs [(c, c)]).foldCase else .char c

/-- The expression of a point: any character but the ends of lines, unless it stands for all. -/
def Flags.dotNode (flags : Flags) : Regex :=
  if flags.dotAll then .set .full
  else if flags.crlf then .set (CharSet.ofPairs [('\n', '\n'), ('\r', '\r')]).negate
  else .set (CharSet.single '\n').negate

def Flags.startNode (flags : Flags) : Regex :=
  .look (if flags.multiLine then if flags.crlf then .lineStartCRLF else .lineStart else .textStart)

def Flags.endNode (flags : Flags) : Regex :=
  .look (if flags.multiLine then if flags.crlf then .lineEndCRLF else .lineEnd else .textEnd)

/-- Sets the flag of a letter. -/
def Flags.set? (flags : Flags) (letter : Char) (on : Bool) : Option Flags :=
  match letter with
  | 'i' => some { flags with ignoreCase := on }
  | 'm' => some { flags with multiLine := on }
  | 's' => some { flags with dotAll := on }
  | 'R' => some { flags with crlf := on }
  | 'x' => some { flags with verbose := on }
  | 'U' => some flags
  | 'u' => some flags
  | _ => none

/-- Reads flag letters up to `:` or `)`, which stays. Letters after a minus take flags back. No
letter comes twice, a minus comes at most once and not at the end, and there is something to
read. `seen` holds the letters before, the last first. -/
def readFlags? (flags : Flags) (seen : List Char) : List Char → Option (Flags × List Char)
  | [] => none
  | c :: rest =>
    if c = ':' ∨ c = ')' then
      if seen.head? = some '-' ∨ (c = ')' ∧ seen = []) then none else some (flags, c :: rest)
    else if c ∈ seen then none
    else if c = '-' then readFlags? flags (c :: seen) rest
    else match flags.set? c ('-' ∉ seen) with
    | some flags => readFlags? flags (c :: seen) rest
    | none => none

/-- Whether a character can stand in the name of a group. -/
def isNameChar (first : Bool) (c : Char) : Bool :=
  if first then c = '_' || Text.isLetter c
  else c = '_' || c = '.' || c = '[' || c = ']' || Text.isLetterOrNumeral c

/-- Reads the name of a group up to its closing `>`. -/
def readName? (s : List Char) : Option (String × List Char) :=
  let name := s.takeWhile (· ≠ '>')
  match s.dropWhile (· ≠ '>'), name with
  | _ :: rest, first :: more =>
    if isNameChar true first && more.all (isNameChar false) then some (String.ofList name, rest)
    else none
  | _, _ => none

/-- The character of a code point; a surrogate is none. -/
def charOfCode? (code : Nat) : Option Char :=
  if code.isValidChar then some (Char.ofNat code) else none

/-- Reads `count` more hexadecimal digits. -/
def readHexDigits? (flags : Flags) : Nat → Nat → List Char → Option (Char × List Char)
  | 0, code, s => (charOfCode? code).map (·, s)
  | count + 1, code, c :: rest =>
    (Text.hexDigit? c).bind fun d => readHexDigits? flags count (16 * code + d) (flags.skip rest)
  | _ + 1, _, [] => none

/-- Reads hexadecimal digits up to a closing brace, at most `fuel` of them; there is at least one,
and no code is above `CharSet.maxCode`. -/
def readHexBraced? (flags : Flags) :
    Nat → Option Nat → List Char → Option (Char × List Char)
  | 0, _, _ => none
  | _ + 1, _, [] => none
  | fuel + 1, code, c :: rest =>
    if c = '\x7d' then (code.bind charOfCode?).map (·, flags.skip rest)
    else (Text.hexDigit? c).bind fun d =>
      let next := 16 * code.getD 0 + d
      if next ≤ CharSet.maxCode then readHexBraced? flags fuel (some next) (flags.skip rest)
      else none

/-- Reads the code of a character after the letter that announces it. -/
def readHex? (flags : Flags) (width : Nat) (s : List Char) : Option (Char × List Char) :=
  match flags.skip s with
  | '\x7b' :: rest => readHexBraced? flags (rest.length + 1) none (flags.skip rest)
  | digits => readHexDigits? flags width 0 digits

/-- The letters and hyphens of the name of a word boundary. -/
def isBoundaryChar (c : Char) : Bool :=
  c.isAlpha || c = '-'

/-- Reads boundary characters, with what may be skipped between them. -/
def readBoundaryName (flags : Flags) : Nat → List Char → List Char × List Char
  | fuel + 1, c :: rest =>
    if isBoundaryChar c then
      let (name, after) := readBoundaryName flags fuel (flags.skip rest)
      (c :: name, after)
    else ([], c :: rest)
  | _, s => ([], s)

/-- Reads what may follow `\b`: the name of a special word boundary in braces. Braces that do not
begin like a name are left to be a repetition. -/
def readBoundary? (flags : Flags) (s : List Char) : Option (Look × List Char) :=
  match s with
  | '\x7b' :: rest =>
    match flags.skip rest with
    | [] => none
    | c :: more =>
      if isBoundaryChar c then
        match readBoundaryName flags (more.length + 1) (c :: more) with
        | (name, '\x7d' :: after) =>
          match String.ofList name with
          | "start" => some (.wordStart, after)
          | "end" => some (.wordEnd, after)
          | "start-half" => some (.wordStartHalf, after)
          | "end-half" => some (.wordEndHalf, after)
          | _ => none
        | _ => none
      else some (.wordBoundary, s)
  | _ => some (.wordBoundary, s)

/-- Reads what a backslash stands for. A character of ASCII that is neither a letter nor a digit
stands for itself, except for the two that mark the ends of a word. -/
def readEscape? (flags : Flags) : List Char → Option (Regex × List Char)
  | [] => none
  | c :: rest =>
    let named := fun x : Char => some (flags.charNode x, rest)
    let codes := fun width : Nat =>
      (readHex? flags width rest).map fun found => (flags.charNode found.1, found.2)
    match c with
    | 'x' => codes 2
    | 'u' => codes 4
    | 'U' => codes 8
    | 'd' => some (.set .digits, rest)
    | 'D' => some (.set CharSet.digits.negate, rest)
    | 's' => some (.set .spaces, rest)
    | 'S' => some (.set CharSet.spaces.negate, rest)
    | 'w' => some (.set .wordChars, rest)
    | 'W' => some (.set CharSet.wordChars.negate, rest)
    | 'a' => named '\x07'
    | 'f' => named '\x0c'
    | 't' => named '\t'
    | 'n' => named '\n'
    | 'r' => named '\r'
    | 'v' => named '\x0b'
    | 'A' => some (.look .textStart, rest)
    | 'z' => some (.look .textEnd, rest)
    | 'B' => some (.look .noWordBoundary, rest)
    | '<' => some (.look .wordStart, rest)
    | '>' => some (.look .wordEnd, rest)
    | 'b' => (readBoundary? flags rest).map fun found => (.look found.1, found.2)
    | c => if c.toNat < 0x80 && !c.isAlphanum then some (flags.charNode c, rest) else none

/-- Reads the name of a set between `[:` and `:]`, and whether `^` negates it. -/
def readNamedSet? (s : List Char) : Option (CharSet × List Char) :=
  match s with
  | '[' :: ':' :: rest =>
    let (negated, body) := match rest with
      | '^' :: more => (true, more)
      | _ => (false, rest)
    match body.dropWhile (· ≠ ':') with
    | ':' :: ']' :: after =>
      (CharSet.named? (String.ofList (body.takeWhile (· ≠ ':')))).map fun chars =>
        (if negated then chars.negate else chars, after)
    | _ => none
  | _ => none

/-- Reads a member of a set: an escape or a character that stands for itself. -/
def readMember? (flags : Flags) : List Char → Option (Regex × List Char)
  | [] => none
  | '\\' :: rest => readEscape? flags rest
  | c :: rest => some (.char c, rest)

/-- The ranges of a member of a set, which is a character or a set. -/
def memberRanges? : Regex → Option (List (Nat × Nat))
  | .char c => some [(c.toNat, c.toNat)]
  | .set s => some s.ranges
  | _ => none

/-- The range between two members, both of them characters. -/
def memberRange? : Regex → Regex → Option (List (Nat × Nat))
  | .char a, .char b => if a ≤ b then some [(a.toNat, b.toNat)] else none
  | _, _ => none

/-- The character that tells whether a hyphen before it makes a range. In a verbose expression it
is looked for behind blanks and behind one `#` with the blanks after it; a comment is not passed
over as a whole. -/
def Flags.peek (flags : Flags) (s : List Char) : Option Char :=
  if flags.verbose then
    match s.dropWhile Text.isBlank with
    | '#' :: rest => (rest.dropWhile Text.isBlank).head?
    | s => s.head?
  else s.head?

/-- Reads the next member or range of a set. A hyphen stands for itself if `Flags.peek` finds the
end of the set or another hyphen after it. -/
def readRange? (flags : Flags) (s : List Char) : Option (List (Nat × Nat) × List Char) :=
  (readMember? flags s).bind fun (first, afterFirst) =>
    match flags.skip afterFirst with
    | [] => none
    | c :: rest =>
      let next := flags.peek rest
      if c ≠ '-' ∨ next = some ']' ∨ next = some '-' then
        (memberRanges? first).map (·, c :: rest)
      else
        (readMember? flags (flags.skip rest)).bind fun (last, afterLast) =>
          (memberRange? first last).map (·, afterLast)

/-- Reads the members of a set up to its closing bracket, in at most `fuel` steps. The operators
on sets and sets inside sets are not supported. -/
def readMembers? (flags : Flags) :
    Nat → List (Nat × Nat) → List Char → Option (List (Nat × Nat) × List Char)
  | 0, _, _ => none
  | fuel + 1, ranges, s =>
    match flags.skip s with
    | [] => none
    | ']' :: rest => some (ranges, rest)
    | '&' :: '&' :: _ => none
    | '-' :: '-' :: _ => none
    | '~' :: '~' :: _ => none
    | '[' :: rest =>
      (readNamedSet? ('[' :: rest)).bind fun (chars, after) =>
        readMembers? flags fuel (ranges ++ chars.ranges) after
    | s => (readRange? flags s).bind fun (more, after) =>
        readMembers? flags fuel (ranges ++ more) after

/-- Takes the hyphens off the beginning of a set, counting them. -/
def takeHyphens (flags : Flags) : Nat → Nat → List Char → Nat × List Char
  | fuel + 1, count, '-' :: rest => takeHyphens flags fuel (count + 1) (flags.skip rest)
  | _, count, s => (count, s)

/-- Reads a set after its opening bracket. Hyphens at its beginning stand for themselves, and so
does a closing bracket that is its first member. -/
def readSet? (flags : Flags) (s : List Char) : Option (Regex × List Char) :=
  let s := flags.skip s
  let (negated, s) := match s with
    | '^' :: rest => (true, flags.skip rest)
    | _ => (false, s)
  let (hyphens, s) := takeHyphens flags s.length 0 s
  let (ranges, s) := match s with
    | ']' :: rest =>
      if hyphens = 0 then ([(']'.toNat, ']'.toNat)], flags.skip rest)
      else ([('-'.toNat, '-'.toNat)], s)
    | _ => (List.replicate (min hyphens 1) ('-'.toNat, '-'.toNat), s)
  (readMembers? flags (s.length + 1) ranges s).map fun (ranges, rest) =>
    let chars := CharSet.ofRanges ranges
    let folded := if flags.ignoreCase then chars.foldCase else chars
    (.set (if negated then folded.negate else folded), rest)

/-- Reads the digits of a count, with what may be skipped after each. -/
def takeDigits (flags : Flags) : Nat → List Char → List Char × List Char
  | fuel + 1, c :: rest =>
    if c.isDigit then
      let (digits, after) := takeDigits flags fuel (flags.skip rest)
      (c :: digits, after)
    else ([], c :: rest)
  | _, s => ([], s)

/-- Reads a count with the blanks around it. It is below `2 ^ 32`. -/
def readCount? (flags : Flags) (s : List Char) : Option (Nat × List Char) :=
  let s := s.dropWhile Text.isBlank
  let (digits, rest) := takeDigits flags s.length s
  let n := digits.foldl (fun n c => 10 * n + (c.toNat - '0'.toNat)) 0
  if digits ≠ [] ∧ n < 1 <<< 32 then some (n, rest.dropWhile Text.isBlank) else none

/-- A text without a question mark at its beginning, which would make a repetition lazy. -/
def skipLazy : List Char → List Char
  | '?' :: rest => rest
  | s => s

/-- Reads the counts of a repetition after the opening brace. -/
def readCounts? (flags : Flags) (s : List Char) : Option (Nat × Option Nat × List Char) :=
  (readCount? flags (flags.skip s)).bind fun (least, rest) =>
    let bounds : Option (Option Nat × List Char) := match rest with
      | ',' :: more =>
        match flags.skip more with
        | '\x7d' :: after => some (none, '\x7d' :: after)
        | more => (readCount? flags more).map fun (most, after) => (some most, after)
      | rest => some (some least, rest)
    bounds.bind fun (most, rest) =>
      match rest with
      | '\x7d' :: after =>
        if most.all (least ≤ ·) then some (least, most, skipLazy (flags.skip after)) else none
      | _ => none

/-- The branches and parts of a level, last first. -/
structure Level where
  branches : List Regex := []
  parts : List Regex := []

/-- The expression of a level that has come to its end. -/
def Level.finish (level : Level) : Regex :=
  choice (sequence level.parts.reverse :: level.branches).reverse

def Level.push (level : Level) (part : Regex) : Level :=
  { level with parts := part :: level.parts }

/-- Ends a branch and begins the next. -/
def Level.branch (level : Level) : Level :=
  ⟨sequence level.parts.reverse :: level.branches, []⟩

/-- Repeats the last part, which there has to be. -/
def Level.repeatLast? (level : Level) (min : Nat) (max : Option Nat) : Option Level :=
  match level.parts with
  | part :: before => some { level with parts := repetition min max part :: before }
  | [] => none

/-- What an open group becomes. Groups that capture are counted from one in the order in which
they are opened. -/
inductive GroupKind where
  | plain
  | capture (index : Nat) (name : Option String)

/-- A group that is open: the level around it, and the flags to restore at its end. -/
structure Open where
  kind : GroupKind
  outer : Level
  flags : Flags

/-- Closes a group over its expression. -/
def Open.close (opened : Open) (inner : Regex) : Level :=
  opened.outer.push (match opened.kind with
    | .plain => inner
    | .capture index name => .group index name inner)

/-- How a parenthesis goes on: it opens a group, or it sets flags up to the end of the group around
it. -/
inductive Opening where
  | group (kind : GroupKind)
  | directive

/-- Reads what follows an opening parenthesis: the flags in force after it, its kind, and the rest.
The next group that captures has the given index. Conditions on the text around a place are not
supported. -/
def readOpening? (flags : Flags) (index : Nat) (s : List Char) :
    Option (Flags × Opening × List Char) :=
  let named := fun rest => (readName? rest).map fun (name, after) =>
    (flags, Opening.group (.capture index (some name)), after)
  match flags.skip s with
  | '?' :: '=' :: _ => none
  | '?' :: '!' :: _ => none
  | '?' :: '<' :: '=' :: _ => none
  | '?' :: '<' :: '!' :: _ => none
  | '?' :: 'P' :: '<' :: rest => named rest
  | '?' :: '<' :: rest => named rest
  | '?' :: rest =>
    match readFlags? flags [] rest with
    | some (inner, ':' :: after) => some (inner, .group .plain, after)
    | some (inner, ')' :: after) => some (inner, .directive, after)
    | _ => none
  | s => some (flags, .group (.capture index none), s)

/-- How deep groups and the parts of a tree may nest. -/
def maxNesting : Nat := 50

/-- What has been read of an expression; `groups` is the number of groups that capture. -/
structure State where
  flags : Flags
  level : Level
  opened : List Open
  names : List String
  groups : Nat

/-- Reads the next part of an expression, whose first character is `c`. -/
def State.read? (s : State) (c : Char) (rest : List Char) : Option (State × List Char) :=
  let push := fun (found : Regex × List Char) =>
    ({ s with level := s.level.push found.1 }, found.2)
  let repeated := fun (min : Nat) (max : Option Nat) (after : List Char) =>
    (s.level.repeatLast? min max).map fun level => ({ s with level := level }, after)
  match c with
  | '(' =>
    (readOpening? s.flags (s.groups + 1) rest).bind fun (flags, opening, after) =>
      match opening with
      | .directive => some ({ s with flags := flags }, after)
      | .group kind =>
        let (groups, name) : Nat × Option String := match kind with
          | .capture index name => (index, name)
          | .plain => (s.groups, none)
        if s.opened.length < maxNesting ∧ name.all (· ∉ s.names) then
          let opened := ⟨kind, s.level, s.flags⟩ :: s.opened
          some (⟨flags, {}, opened, name.toList ++ s.names, groups⟩, after)
        else none
  | ')' =>
    match s.opened with
    | innermost :: outer =>
      let level := innermost.close s.level.finish
      some (⟨innermost.flags, level, outer, s.names, s.groups⟩, rest)
    | [] => none
  | '|' => some ({ s with level := s.level.branch }, rest)
  | '[' => (readSet? s.flags rest).map push
  | '?' => repeated 0 (some 1) (skipLazy rest)
  | '*' => repeated 0 none (skipLazy rest)
  | '+' => repeated 1 none (skipLazy rest)
  | '\x7b' => (readCounts? s.flags rest).bind fun (min, max, after) => repeated min max after
  | '\\' => (readEscape? s.flags rest).map push
  | '.' => some (push (s.flags.dotNode, rest))
  | '^' => some (push (s.flags.startNode, rest))
  | '$' => some (push (s.flags.endNode, rest))
  | c => some (push (s.flags.charNode c, rest))

/-- Reads an expression to its end in at most `fuel` steps. -/
def readAll? : Nat → State → List Char → Option State
  | 0, _, _ => none
  | fuel + 1, s, text =>
    match s.flags.skip text with
    | [] => some s
    | c :: rest =>
      match s.read? c rest with
      | some (s, rest) => readAll? fuel s rest
      | none => none

/-- The expression that a text writes, if it writes one. -/
def ofText? (text : List Char) : Option Regex :=
  (readAll? (text.length + 1) ⟨{}, {}, [], [], 0⟩ text).bind fun s =>
    let r := s.level.finish
    if s.opened.isEmpty && r.height ≤ maxNesting then some r else none

end Widgetry.Regex
