import LineShell.Text.Alphanumeric

/-!
# The line being edited

An editor holds the characters of the line, the caret among them, and whether typed characters
replace the ones under the caret. Word movement goes by runs of characters that are all word
characters, or all not.
-/

namespace LineShell

/-- The line being edited. -/
structure Editor where
  /-- The characters of the line. -/
  buffer : List Char := []
  /-- The number of characters before the caret. -/
  caret : Nat := 0
  /-- Whether typed characters replace the ones under the caret. -/
  overwrite : Bool := false
  /-- Whether letters and digits of all scripts count as word characters, or those of ASCII
  only. -/
  unicodeWords : Bool := false
  deriving DecidableEq, Repr

namespace Editor

/-- The line as a text. -/
def text (e : Editor) : String :=
  .ofList e.buffer

/-- The characters from the caret on. -/
def tail (e : Editor) : List Char :=
  e.buffer.drop e.caret

/-- Whether a character is a word character. -/
def isWordChar (e : Editor) (c : Char) : Bool :=
  if e.unicodeWords then Text.isAlphanumeric c else Text.isAsciiAlphanumeric c

/-- The number of characters at the beginning of a list that are of the same class as the first
one. -/
def runLength (e : Editor) : List Char → Nat
  | [] => 0
  | c :: cs => (cs.takeWhile fun d => e.isWordChar d == e.isWordChar c).length + 1

/-- Where the run of characters before the caret begins. -/
def previousBoundary (e : Editor) : Nat :=
  e.caret - e.runLength (e.buffer.take e.caret).reverse

/-- Where the run of characters from the caret on ends. -/
def nextBoundary (e : Editor) : Nat :=
  e.caret + e.runLength (e.buffer.drop e.caret)

end Editor

end LineShell
