import LineShell.Yaml.Place

/-!
# Plain and quoted scalars

A scalar may go on over several lines. The gap between two of its words is folded: the blanks around
breaks are dropped, a single break counts as a blank, and of more breaks the first one is dropped.
Between double quotes a backslash begins an escape, and before a break it joins two lines without a
blank.

The readers keep the characters that they have read, the last one first.
-/

namespace LineShell.Yaml

/-! ### Gaps -/

/-- A gap between two words, its last characters first. -/
structure Gap where
  /-- Whether an escaped break begins it. -/
  joined : Bool := false
  /-- The blanks before its first break. -/
  blanks : List Char := []
  breaks : List Char := []
  deriving DecidableEq, Repr

namespace Gap

/-- Whether there is no gap. -/
def isEmpty (g : Gap) : Bool :=
  g.blanks.isEmpty && g.breaks.isEmpty

/-- Whether a gap goes over the end of a line. -/
def hasBreak (g : Gap) : Bool :=
  !g.breaks.isEmpty

/-- The gap with one more character. -/
def push (g : Gap) (c : Char) : Gap :=
  if isBreak c then { g with breaks := c :: g.breaks }
  else if g.joined || g.hasBreak then g
  else { g with blanks := c :: g.blanks }

/-- What a gap stands for. -/
def text (g : Gap) : List Char :=
  if g.joined then g.breaks.reverse
  else match g.breaks.reverse with
    | [] => g.blanks.reverse
    | ['\n'] => [' ']
    | '\n' :: breaks => breaks
    | breaks => breaks

/-- The characters before a gap, the last one first, and what the gap stands for. -/
def after (g : Gap) (read : List Char) : List Char :=
  g.text.reverseAux read

end Gap

/-! ### Plain scalars -/

/-- Whether a character is an indicator in flow collections. -/
def isFlowIndicator (c : Char) : Bool :=
  ",[]\x7b\x7d".toList.contains c

/-- Whether a character that begins a word says that it is no plain scalar. -/
def isIndicator (c : Char) : Bool :=
  isFlowIndicator c || "-?:#&*!|>\x27\"%@\x60".toList.contains c

/-- Whether a plain scalar can begin with a character before others. -/
def startsPlain (flow : Bool) (c : Char) (ps : List Placed) : Bool :=
  !isIndicator c && !isGap c ||
    (!atGap ps && (c == '-' || (!flow && (c == '?' || c == ':'))))

/-- Whether a plain scalar that has to reach a margin ends after a gap and before a character. -/
def endsPlain (flow : Bool) (margin : Nat) (gap : Gap) (p : Placed) (ps : List Placed) : Bool :=
  (p.char == ':' && atGap ps) ||
    (flow && isFlowIndicator p.char) ||
    (!gap.isEmpty && p.char == '#') ||
    (gap.hasBreak && ((!flow && p.column < margin) || atMarker (p :: ps)))

/-- Whether an indicator of flow collections, or a question mark, comes next. -/
def atFlowIndicator (ps : List Placed) : Bool :=
  ps.head?.any fun p => isFlowIndicator p.char || p.char == '?'

/-- Reads on in a plain scalar after a gap, and gives the gap after it too. Tabs may not take part
in the indentation of its lines, and in a flow collection a colon may not come right before an
indicator. -/
def plainFrom (flow : Bool) (margin : Nat) (read : List Char) (gap : Gap) :
    List Placed → Option ((String × Gap) × List Placed)
  | [] => some ((.ofList read.reverse, gap), [])
  | p :: ps =>
    if isGap p.char then
      if p.char = '\t' ∧ gap.hasBreak ∧ p.column < margin then none
      else plainFrom flow margin read (gap.push p.char) ps
    else if endsPlain flow margin gap p ps then some ((.ofList read.reverse, gap), p :: ps)
    else if flow ∧ p.char = ':' ∧ atFlowIndicator ps then none
    else plainFrom flow margin (p.char :: gap.after read) {} ps

/-! ### Single quotes -/

/-- Reads on between single quotes after a gap. Two of them stand for one. -/
def singleFrom (read : List Char) (gap : Gap) : List Placed → Option (String × List Placed)
  | [] => none
  | [p] => if p.char = '\x27' then some (.ofList (gap.after read).reverse, []) else none
  | p :: q :: ps =>
    if isGap p.char then singleFrom read (gap.push p.char) (q :: ps)
    else if atMarker (p :: q :: ps) then none
    else if p.char = '\x27' then
      if q.char = '\x27' then singleFrom (p.char :: gap.after read) {} ps
      else some (.ofList (gap.after read).reverse, q :: ps)
    else singleFrom (p.char :: gap.after read) {} (q :: ps)

/-! ### Double quotes -/

/-- Where the reader stands between double quotes. -/
inductive Escape
  /-- After a gap. -/
  | text (gap : Gap)
  /-- Right after a backslash. -/
  | begun
  /-- In the number of a character, before so many more digits, with the value of those so far. -/
  | digits (left value : Nat)
  deriving DecidableEq, Repr

/-- The characters that an escape of one character stands for. -/
def escapes : List (Char × Char) :=
  [('0', '\x00'), ('a', '\x07'), ('b', '\x08'), ('t', '\t'), ('\t', '\t'), ('n', '\n'),
   ('v', '\x0B'), ('f', '\x0C'), ('r', '\r'), ('e', '\x1B'), (' ', ' '), ('"', '"'), ('/', '/'),
   ('\\', '\\'), ('N', '\x85'), ('_', '\xA0'), ('L', '\u2028'), ('P', '\u2029')]

/-- How many digits follow the letter of an escape by number. -/
def digitCounts : List (Char × Nat) :=
  [('x', 2), ('u', 4), ('U', 8)]

/-- The character of a number. -/
def charOfNumber? (n : Nat) : Option Char :=
  if n.isValidChar then some (.ofNat n) else none

/-- Reads on between double quotes. -/
def doubleFrom (read : List Char) : Escape → List Placed → Option (String × List Placed)
  | _, [] => none
  | .text gap, p :: ps =>
    if isGap p.char then doubleFrom read (.text (gap.push p.char)) ps
    else if atMarker (p :: ps) then none
    else if p.char = '"' then some (.ofList (gap.after read).reverse, ps)
    else if p.char = '\\' then doubleFrom (gap.after read) .begun ps
    else doubleFrom (p.char :: gap.after read) (.text {}) ps
  | .begun, p :: ps =>
    if isBreak p.char then doubleFrom read (.text { joined := true }) ps
    else match digitCounts.lookup p.char, escapes.lookup p.char with
      | some count, _ => doubleFrom read (.digits count 0) ps
      | none, some c => doubleFrom (c :: read) (.text {}) ps
      | none, none => none
  | .digits left value, p :: ps =>
    match hexDigit? p.char with
    | none => none
    | some d =>
      if left ≤ 1 then
        match charOfNumber? (16 * value + d) with
        | some c => doubleFrom (c :: read) (.text {}) ps
        | none => none
      else doubleFrom read (.digits (left - 1) (16 * value + d)) ps

end LineShell.Yaml
