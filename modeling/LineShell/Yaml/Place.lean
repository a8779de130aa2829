/-!
# Characters in their places

Where a character stands decides what it means: columns nest collections, and a key stands on one
line. So a document is read as a list of characters with their places, and reading leaves a shorter
list.
-/

namespace LineShell.Yaml

/-- A character with its place. -/
structure Placed where
  char : Char
  line : Nat
  column : Nat
  deriving DecidableEq, Repr

/-! ### Classes of characters -/

/-- Whether a character ends a line. -/
def isBreak (c : Char) : Bool :=
  c == '\n' || c == '\u2028' || c == '\u2029'

/-- Whether a character is a blank within a line. -/
def isSpace (c : Char) : Bool :=
  c == ' ' || c == '\t'

/-- Whether a character separates words. -/
def isGap (c : Char) : Bool :=
  isSpace c || isBreak c

/-- Whether a character may stand in a document. -/
def isAllowed (c : Char) : Bool :=
  let n := c.toNat
  n == 9 || n == 10 || n == 13 || (0x20 ≤ n && n ≤ 0x7E) || n == 0x85 || (0xA0 ≤ n && n ≤ 0xFFFD) ||
    0x10000 ≤ n

/-- Whether a character may stand in the name of an anchor, a directive or a handle of tags. -/
def isNameChar (c : Char) : Bool :=
  c.isAlphanum || c == '_' || c == '-'

/-- The value of a hexadecimal digit. -/
def hexDigit? (c : Char) : Option Nat :=
  if '0' ≤ c ∧ c ≤ '9' then some (c.toNat - '0'.toNat)
  else if 'a' ≤ c ∧ c ≤ 'f' then some (c.toNat - 'a'.toNat + 10)
  else if 'A' ≤ c ∧ c ≤ 'F' then some (c.toNat - 'A'.toNat + 10)
  else none

/-! ### Places -/

/-- The characters with a line feed for every break that is written otherwise and means the same,
after the reversed characters before them. -/
def lineFeeds (done : List Char) : List Char → List Char
  | [] => done.reverse
  | '\r' :: '\n' :: cs => lineFeeds ('\n' :: done) cs
  | c :: cs => lineFeeds ((if c = '\r' ∨ c = '\x85' then '\n' else c) :: done) cs

/-- The characters with their places from a place on, after the reversed ones before them. -/
def placeFrom (line column : Nat) (done : List Placed) : List Char → List Placed
  | [] => done.reverse
  | c :: cs =>
    if isBreak c then placeFrom (line + 1) 0 (⟨c, line, column⟩ :: done) cs
    else placeFrom line (column + 1) (⟨c, line, column⟩ :: done) cs

/-- The characters of a document in their places. -/
def place (text : String) : List Placed :=
  placeFrom 0 0 [] (lineFeeds [] text.toList)

/-- The name that comes next, which may be empty. -/
def nameOf (ps : List Placed) : String × List Placed :=
  let (name, rest) := ps.span fun p => isNameChar p.char
  (.ofList (name.map (·.char)), rest)

/-- Whether a word ends here. -/
def atGap (ps : List Placed) : Bool :=
  ps.head?.all fun p => isGap p.char

/-- Whether a line ends here. -/
def atBreak (ps : List Placed) : Bool :=
  ps.head?.all fun p => isBreak p.char

/-- What is left after blanks. -/
def dropSpaces (ps : List Placed) : List Placed :=
  ps.dropWhile fun p => isSpace p.char

/-- What is left of a line after blanks and a comment. -/
def dropComment (ps : List Placed) : List Placed :=
  match dropSpaces ps with
  | [] => []
  | p :: ps => if p.char = '#' then ps.dropWhile fun p => !isBreak p.char else p :: ps

/-- Whether three of a character begin a line and are a word. -/
def isTriple (c : Char) : List Placed → Bool
  | p :: q :: r :: rest =>
    p.column == 0 && p.char == c && q.char == c && r.char == c && atGap rest
  | _ => false

/-- Whether a document begins or ends here. -/
def atMarker (ps : List Placed) : Bool :=
  isTriple '-' ps || isTriple '.' ps

/-- Passes over blanks, breaks and comments, the first line being in a comment or not, and says
whether a key may begin at what follows: a new line allows it outside flow collections. Where a key
may begin, tabs are no blanks, since the indentation would be measured by them. The mark of the byte
order may begin a line. -/
def skip (flow comment keys : Bool) : List Placed → Bool × List Placed
  | [] => (keys, [])
  | p :: ps =>
    if isBreak p.char then skip flow false (keys || !flow) ps
    else if comment ∨ p.char = '#' then skip flow true keys ps
    else if p.char = ' ' ∨ (p.char = '\uFEFF' ∧ p.column = 0) then skip flow false keys ps
    else if p.char = '\t' ∧ (flow ∨ !keys) then skip flow false keys ps
    else (keys, p :: ps)

end LineShell.Yaml
