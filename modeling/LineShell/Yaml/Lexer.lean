import LineShell.Yaml.BlockScalar
import LineShell.Yaml.Scalar
import LineShell.Yaml.Tag
import LineShell.Yaml.Token

/-!
# From characters to tokens

Columns tell block collections apart: all entries of a collection begin in one column, and what
belongs to an entry begins to the right of it. Whether a node is a key shows only at the colon after
it, so the lexer remembers where a key may have begun; the colon has to follow on the same line and
within `maxKey` characters. Where the column promises a key, there has to be one.

Each step of the lexer reads at least one character, so `Lexer.run` needs one step more than there
are characters.
-/

namespace LineShell.Yaml

/-- How far the colon after a key may be from where the key begins. -/
def maxKey : Nat := 1024

/-- Where a key may have begun. -/
structure KeySpot where
  place : Placed
  /-- How many tokens came before it. -/
  index : Nat
  /-- Whether the column promises a key. -/
  promised : Bool
  deriving DecidableEq, Repr

/-- Whether a colon at a place comes too late for a key. -/
def KeySpot.isPast (s : KeySpot) (p : Placed) : Bool :=
  s.place.line < p.line || s.place.column + maxKey < p.column

/-- A document of which some characters are left. -/
structure Lexer where
  rest : List Placed
  tokens : Array Token := #[]
  /-- The columns of the open block collections, the innermost first. -/
  columns : List Nat := []
  /-- Where a key may have begun in the innermost collection. -/
  spot : Option KeySpot := none
  /-- The same for the collections around the open flow collections. -/
  outer : List (Option KeySpot) := []
  /-- Whether a key may begin at the next token. -/
  allowsKey : Bool := true
  /-- The names of anchors with their labels, the newest first. -/
  anchors : List (String × Nat) := []
  /-- What the handles of tags stand for. -/
  handles : Handles := []
  /-- Whether the version of the notation was given. -/
  hasVersion : Bool := false
  deriving Repr

namespace Lexer

/-- Whether a flow collection is open. -/
def isFlow (l : Lexer) : Bool := !l.outer.isEmpty

/-- The column that the contents of the innermost block collection have to reach. -/
def margin (l : Lexer) : Nat := (l.columns.head?.map (· + 1)).getD 0

/-- The lexer after a token, with the characters that are left. -/
def put (l : Lexer) (t : Token) (rest : List Placed) : Lexer :=
  { l with tokens := l.tokens.push t, rest }

/-! ### Columns -/

/-- Opens a block collection in a column if none is open there, from an earlier token on. -/
def openBlock (l : Lexer) (column index : Nat) (t : Token) : Lexer :=
  if !l.isFlow && l.margin ≤ column then
    { l with columns := column :: l.columns, tokens := l.tokens.insertIdxIfInBounds index t }
  else l

/-- Closes the block collections to the right of a column, or all of them. -/
def closeBlocks (l : Lexer) (column : Option Nat) : Lexer :=
  if l.isFlow then l
  else
    let (closed, columns) := l.columns.span fun c => column.all (· < c)
    { l with columns, tokens := l.tokens ++ Array.replicate closed.length .blockEnd }

/-! ### Keys -/

/-- What comes next is no continuation of a key. -/
def dropSpot (l : Lexer) : Option Lexer :=
  if l.spot.any (·.promised) then none else some { l with spot := none }

/-- Drops the keys that a colon at a place would come too late for. -/
def dropPastSpots (l : Lexer) (p : Placed) : Option Lexer :=
  let spots := l.spot :: l.outer
  if !spots.any (·.any (·.isPast p)) then some l
  else if spots.any (·.any fun s => s.isPast p && s.promised) then none
  else
    let current (s : Option KeySpot) := s.filter (!·.isPast p)
    some { l with spot := current l.spot, outer := l.outer.map current }

/-- A key may begin at a place. -/
def markSpot (l : Lexer) (p : Placed) : Option Lexer :=
  if l.allowsKey then do
    let promised := !l.isFlow && l.columns.head? = some p.column
    return { (← l.dropSpot) with spot := some ⟨p, l.tokens.size, promised⟩ }
  else some l

/-! ### Tokens -/

/-- Reads a directive. Only versions 1.1 and 1.2 are known, the version is given once, and so is
what a handle stands for. -/
def directive (l : Lexer) (ps : List Placed) : Option Lexer := do
  let l ← (l.closeBlocks none).dropSpot
  match ← readDirective ps with
  | (.version major minor, rest) =>
    if l.hasVersion || major ≠ 1 || (minor ≠ 1 && minor ≠ 2) then none
    else return { l.put .directive rest with allowsKey := false, hasVersion := true }
  | (.handle name meaning, rest) =>
    if (l.handles.lookup name).isSome then none
    else return { l.put .directive rest with
      allowsKey := false, handles := (name, meaning) :: l.handles }

/-- Reads the marker before or after a document. -/
def marker (l : Lexer) (t : Token) (ps : List Placed) : Option Lexer := do
  let l ← (l.closeBlocks none).dropSpot
  return { l.put t (ps.drop 2) with allowsKey := false }

/-- Reads an opening bracket. -/
def openFlow (l : Lexer) (t : Token) (p : Placed) (ps : List Placed) : Option Lexer := do
  let l ← l.markSpot p
  return { l.put t ps with spot := none, outer := l.spot :: l.outer, allowsKey := true }

/-- Reads a closing bracket. -/
def closeFlow (l : Lexer) (t : Token) (ps : List Placed) : Option Lexer := do
  let l ← l.dropSpot
  let l := { l.put t ps with allowsKey := false }
  match l.outer with
  | [] => return l
  | spot :: outer => return { l with spot, outer }

/-- Reads a comma. -/
def comma (l : Lexer) (ps : List Placed) : Option Lexer := do
  return { (← l.dropSpot).put .comma ps with allowsKey := true }

/-- Reads the hyphen before an item of a block sequence. -/
def hyphen (l : Lexer) (p : Placed) (ps : List Placed) : Option Lexer := do
  if !l.isFlow && !l.allowsKey then none
  let l := l.openBlock p.column l.tokens.size .blockSequence
  return { (← l.dropSpot).put .hyphen ps with allowsKey := true }

/-- Reads the question mark before a key. -/
def question (l : Lexer) (p : Placed) (ps : List Placed) : Option Lexer := do
  if !l.isFlow && !l.allowsKey then none
  let l := l.openBlock p.column l.tokens.size .blockMapping
  return { (← l.dropSpot).put .key ps with allowsKey := !l.isFlow }

/-- Reads the colon before a value, which shows that there was a key. -/
def colon (l : Lexer) (p : Placed) (ps : List Placed) : Option Lexer :=
  match l.spot with
  | some s =>
    let l := { l with tokens := l.tokens.insertIdxIfInBounds s.index .key }
    let l := l.openBlock s.place.column s.index .blockMapping
    some { l.put .value ps with spot := none, allowsKey := false }
  | none =>
    if !l.isFlow && !l.allowsKey then none
    else
      let l := l.openBlock p.column l.tokens.size .blockMapping
      some { l.put .value ps with allowsKey := !l.isFlow }

/-- Whether the name of an anchor may end here. -/
def endsName (ps : List Placed) : Bool :=
  atGap ps || ps.head?.any fun p => "?:,]\x7d%@\x60".toList.contains p.char

/-- Reads an anchor, or a reference to one. An anchor is labelled by the number of different names
before it. -/
def anchor (l : Lexer) (isReference : Bool) (p : Placed) (ps : List Placed) : Option Lexer := do
  let l ← l.markSpot p
  let (name, rest) := nameOf ps
  if name = "" ∨ !endsName rest then none
  let l := { l with allowsKey := false }
  if isReference then return l.put (.reference (← l.anchors.lookup name)) rest
  else
    let others := l.anchors.filter (·.1 != name)
    return { l.put (.anchor l.anchors.length) rest with
      anchors := (name, l.anchors.length) :: others }

/-- Reads a tag. -/
def tag (l : Lexer) (p : Placed) (ps : List Placed) : Option Lexer := do
  let l ← l.markSpot p
  let (name, rest) ← readTag l.isFlow l.handles ps
  return { l.put (.tag name) rest with allowsKey := false }

/-- Reads a block scalar. -/
def block (l : Lexer) (folded : Bool) (ps : List Placed) : Option Lexer := do
  let l ← l.dropSpot
  let (text, rest) ← blockScalar folded l.margin ps
  let style : ScalarStyle := if folded then .folded else .literal
  return { l.put (.scalar style text) rest with allowsKey := true }

/-- Reads a quoted scalar. -/
def quoted (l : Lexer) (double : Bool) (p : Placed) (ps : List Placed) : Option Lexer := do
  let l ← l.markSpot p
  let (text, rest) ← if double then doubleFrom [] (.text {}) ps else singleFrom [] {} ps
  return { l.put (.scalar .quoted text) rest with allowsKey := false }

/-- Reads a plain scalar. A key may begin after it if it ends at the beginning of a line. -/
def plain (l : Lexer) (p : Placed) (ps : List Placed) : Option Lexer := do
  let l ← l.markSpot p
  let ((text, gap), rest) ← plainFrom l.isFlow l.margin [] {} (p :: ps)
  return { l.put (.scalar .plain text) rest with allowsKey := gap.hasBreak }

/-- Reads the token at a character. -/
def token (l : Lexer) (p : Placed) (ps : List Placed) : Option Lexer :=
  if p.column = 0 ∧ p.char = '%' then l.directive ps
  else if isTriple '-' (p :: ps) then l.marker .documentStart ps
  else if isTriple '.' (p :: ps) then l.marker .documentEnd ps
  else if p.char = '[' then l.openFlow .flowSequence p ps
  else if p.char = '\x7b' then l.openFlow .flowMapping p ps
  else if p.char = ']' then l.closeFlow .flowSequenceEnd ps
  else if p.char = '\x7d' then l.closeFlow .flowMappingEnd ps
  else if p.char = ',' then l.comma ps
  else if p.char = '-' ∧ atGap ps then l.hyphen p ps
  else if p.char = '?' ∧ (l.isFlow ∨ atGap ps) then l.question p ps
  else if p.char = ':' ∧ (l.isFlow ∨ atGap ps) then l.colon p ps
  else if p.char = '*' then l.anchor true p ps
  else if p.char = '&' then l.anchor false p ps
  else if p.char = '!' then l.tag p ps
  else if p.char = '|' ∧ !l.isFlow then l.block false ps
  else if p.char = '>' ∧ !l.isFlow then l.block true ps
  else if p.char = '\x27' then l.quoted false p ps
  else if p.char = '"' then l.quoted true p ps
  else if startsPlain l.isFlow p.char ps then l.plain p ps
  else none

/-- Closes what is open where the text ends. -/
def finish (l : Lexer) : Option (List Token) :=
  if (l.spot :: l.outer).any fun s => s.any (·.promised) then none
  else some (l.closeBlocks none).tokens.toList

/-- Reads the tokens that are left, in so many steps at most. -/
def run : Nat → Lexer → Option (List Token)
  | 0, _ => none
  | n + 1, l =>
    let (allowsKey, rest) := skip l.isFlow false l.allowsKey l.rest
    match rest with
    | [] => l.finish
    | p :: ps => do
      let l ← ({ l with allowsKey } : Lexer).dropPastSpots p
      run n (← (l.closeBlocks (some p.column)).token p ps)

end Lexer

/-- The tokens of a text. -/
def Token.ofText? (text : String) : Option (List Token) :=
  if text.toList.all isAllowed then
    let ps := place text
    Lexer.run (ps.length + 1) { rest := ps }
  else none

end LineShell.Yaml
