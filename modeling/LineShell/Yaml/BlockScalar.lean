import LineShell.Yaml.Place

/-!
# Block scalars

A block scalar is announced by a bar, which keeps its breaks, or by an angle bracket, which folds
them. Its lines are those that reach its indentation, given by number or by its first line. A sign
says whether the breaks at its end are stripped or kept; without one a single break remains.
-/

namespace LineShell.Yaml

/-- What becomes of the breaks at the end of a block scalar. -/
inductive Chomping
  | strip
  | clip
  | keep
  deriving DecidableEq, Repr

/-- What is said about a block scalar before its first line. -/
structure BlockHeader where
  chomping : Chomping
  /-- By how much the scalar is indented more than what it is in. -/
  indent : Option Nat
  deriving DecidableEq, Repr

/-- A sign, if there is one. -/
def chompingOf : List Placed → Chomping × List Placed
  | [] => (.clip, [])
  | p :: ps =>
    if p.char = '+' then (.keep, ps)
    else if p.char = '-' then (.strip, ps)
    else (.clip, p :: ps)

/-- A digit, if there is one. -/
def indentOf : List Placed → Option Nat × List Placed
  | [] => (none, [])
  | p :: ps => if p.char.isDigit then (some (p.char.toNat - '0'.toNat), ps) else (none, p :: ps)

/-- Reads a header to the end of its line: a sign and a digit other than zero, in any order. -/
def BlockHeader.read? (ps : List Placed) : Option (BlockHeader × List Placed) :=
  let (header, rest) :=
    match indentOf ps with
    | (some n, ps) => (BlockHeader.mk (chompingOf ps).1 (some n), (chompingOf ps).2)
    | (none, ps) =>
      let (chomping, ps) := chompingOf ps
      (BlockHeader.mk chomping (indentOf ps).1, (indentOf ps).2)
  let rest := dropComment rest
  if atBreak rest && header.indent != some 0 then some (header, rest.drop 1) else none

/-! ### Lines -/

/-- The characters by lines, each with its break. -/
def splitLines (ps : List Placed) : List (List Placed) :=
  ps.foldr (fun p lines =>
    if isBreak p.char then [p] :: lines
    else match lines with
      | [] => [[p]]
      | line :: lines => (p :: line) :: lines) []

/-- By how many blanks a line is indented. -/
def indentation (line : List Placed) : Nat :=
  (line.takeWhile fun p => p.char == ' ').length

/-- Whether a line has nothing but blanks before its break. -/
def isEmptyLine (line : List Placed) : Bool :=
  (line.drop (indentation line)).head?.any fun p => isBreak p.char

/-- The indentation that the first lines show, at least the given one. A tab may not come before
the text of the first line. -/
def shownIndent? (least : Nat) (lines : List (List Placed)) : Option Nat :=
  let leading := lines.takeWhile isEmptyLine
  let first := (lines.dropWhile isEmptyLine).head?.getD []
  if (first.drop (indentation first)).head?.any fun p => p.char == '\t' then none
  else some (((first :: leading).map indentation).foldl max least)

/-- A line of a block scalar. -/
inductive BlockRow
  /-- A text and its break, if it has one. -/
  | text (text ending : List Char)
  /-- A break alone. -/
  | empty (ending : List Char)
  deriving DecidableEq, Repr

/-- The lines that belong to a block scalar of an indentation, and the others. -/
def takeRows (indent : Nat) : List (List Placed) → Option (List BlockRow × List (List Placed))
  | [] => some ([], [])
  | line :: lines =>
    let blanks := min (indentation line) indent
    match line.drop blanks with
    | [] => some ([], [])
    | p :: ps =>
      let more (row : BlockRow) :=
        (takeRows indent lines).map fun (rows, rest) => (row :: rows, rest)
      if isBreak p.char then more (.empty [p.char])
      else if p.char = '\t' ∧ blanks < indent then none
      else if blanks < indent then some ([], line :: lines)
      else
        let (text, ending) := ((p :: ps).map (·.char)).span fun c => !isBreak c
        more (.text text ending)

/-! ### Text -/

/-- Whether a line is indented further. -/
def startsBlank (cs : List Char) : Bool :=
  cs.head?.any isSpace

/-- What separates a line from the one before it, which was indented further or not and had an
ending, with some breaks between the two. -/
def separator (folded : Bool) (previous : Option (Bool × List Char)) (breaks text : List Char) :
    List Char :=
  match previous with
  | none => breaks
  | some (blank, ending) =>
    if folded ∧ ending = ['\n'] ∧ !blank ∧ !startsBlank text then
      if breaks.isEmpty then [' '] else breaks
    else ending ++ breaks

/-- The text of some lines. -/
def assemble (folded : Bool) (chomping : Chomping) :
    Option (Bool × List Char) → List Char → List BlockRow → List Char
  | previous, breaks, [] =>
    let ending := (previous.map (·.2)).getD []
    match chomping with
    | .strip => []
    | .clip => ending
    | .keep => ending ++ breaks
  | previous, breaks, .empty ending :: rows =>
    assemble folded chomping previous (breaks ++ ending) rows
  | previous, breaks, .text text ending :: rows =>
    separator folded previous breaks text ++ text ++
      assemble folded chomping (some (startsBlank text, ending)) [] rows

/-- Reads a block scalar after its indicator, in a place whose contents have to reach a margin. -/
def blockScalar (folded : Bool) (margin : Nat) (ps : List Placed) :
    Option (String × List Placed) := do
  let (header, rest) ← BlockHeader.read? ps
  let lines := splitLines rest
  let indent ← match header.indent with
    | some n => some (margin - 1 + n)
    | none => shownIndent? (max margin 1) lines
  let (rows, lines) ← takeRows indent lines
  return (.ofList (assemble folded header.chomping none [] rows), lines.flatten)

end LineShell.Yaml
