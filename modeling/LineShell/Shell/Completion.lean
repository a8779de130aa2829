import LineShell.Shell.Command

/-!
# Completion

The first completion key collects what all commands offer for the caret and puts the first candidate
in the place of the word there. As long as the line and the caret stay as the completion left them,
further keys walk around the ring of candidates. Anything else starts over.
-/

namespace LineShell

/-- Which way to walk around the ring. -/
inductive Direction
  | forward
  | backward
  deriving DecidableEq, Repr

namespace Completion

/-- The completion with the next candidate, or the previous one, in the line. -/
def step (c : Completion) (d : Direction) : Completion :=
  let n := c.candidates.length
  { c with index := match d with
    | .forward => (c.index + 1) % n
    | .backward => (c.index + n - 1) % n }

/-- The characters of the candidate that is in the line, with quotes if it needs them. -/
def candidate (c : Completion) : List Char :=
  (quote (c.candidates.getD c.index "")).toList

/-- The line that the completion makes. -/
def line (c : Completion) : List Char :=
  c.before ++ c.candidate ++ c.after

/-- Where the completion puts the caret: after the candidate. -/
def caret (c : Completion) : Nat :=
  c.before.length + c.candidate.length

/-- Whether a line and its caret are just as the completion made them. -/
def isIn (c : Completion) (e : Editor) : Bool :=
  e.buffer == c.line && e.caret == c.caret

/-- The completion of a line that begins with some candidates, if there are any. -/
def start? (e : Editor) (line : Line) (candidates : List String) (d : Direction) :
    Option Completion :=
  if candidates.isEmpty then none
  else
    let start := if line.startsWord then e.caret else line.wordStart line.selected
    let stop := if line.startsWord then e.caret else start + line.wordLength line.selected
    some {
      candidates
      index := match d with
        | .forward => 0
        | .backward => candidates.length - 1
      before := e.buffer.take start
      after := e.buffer.drop stop }

end Completion

/-- The texts without those that are equal to an earlier one up to case. -/
def distinctIgnoringCase (texts : List String) : List String :=
  texts.foldl (fun known text =>
    if known.any (Text.eqIgnoringCase · text) then known else known ++ [text]) []

namespace Shell

variable {S : Signature}

/-- What all commands offer for the caret of a line, each text once up to case, in the order of
their lower case. -/
def suggestions (app : Application S) (shell : Shell S) (line : Line) : List String :=
  let all := shell.commands.flatMap fun command => (app.command command).suggest shell line
  (distinctIgnoringCase all).mergeSort fun a b => decide (Text.lowerText a ≤ Text.lowerText b)

/-- The completion that a completion key leads to, if there is anything to complete. -/
def nextCompletion (app : Application S) (shell : Shell S) (d : Direction) : Option Completion :=
  let e := shell.editor
  let fresh :=
    let line := Line.parse e.text e.caret
    Completion.start? e line (shell.suggestions app line) d
  match shell.completion with
  | some c => if c.isIn e then some (c.step d) else fresh
  | none => fresh

end Shell

end LineShell
