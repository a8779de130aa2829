import LineShell.Line.Quoting

/-!
# The words of a line

A line is cut at the blanks that lie outside quoted spans. A word keeps its quotes, so the words
and the blanks between them make up the line again. A quoted span that is never closed runs to the
end of the line.
-/

namespace LineShell

/-- A word of a line: how many characters come before it, and its own characters. -/
structure Word where
  start : Nat
  chars : List Char
  deriving DecidableEq, Repr

namespace Word

/-- How many characters of the line come before the end of the word. -/
def stop (w : Word) : Nat :=
  w.start + w.chars.length

/-- Cuts characters into words, `position` being the place of the first one. With a quoting state
the reader is within a word: the result is the rest of that word, and the words after it. -/
def scan (position : Nat) : Option Quoting → List Char → List Char × List Word
  | _, [] => ([], [])
  | none, c :: cs =>
    if Text.isBlank c then
      ([], (scan (position + 1) none cs).2)
    else
      let (rest, words) := scan (position + 1) (some (Quoting.bare.step c)) cs
      ([], ⟨position, c :: rest⟩ :: words)
  | some q, c :: cs =>
    if q = .bare ∧ Text.isBlank c then
      ([], (scan (position + 1) none cs).2)
    else
      let (rest, words) := scan (position + 1) (some (q.step c)) cs
      (c :: rest, words)

/-- The words of a line. -/
def split (cs : List Char) : List Word :=
  (scan 0 none cs).2

@[simp] theorem scan_nil (position : Nat) (q : Option Quoting) : scan position q [] = ([], []) := by
  cases q <;> rfl

theorem scan_none_fst (position : Nat) (cs : List Char) : (scan position none cs).1 = [] := by
  cases cs with
  | nil => rfl
  | cons c cs => unfold scan; split <;> rfl

example : split "a \"b c\" d".toList = [⟨0, ['a']⟩, ⟨2, "\"b c\"".toList⟩, ⟨8, ['d']⟩] := by decide

end Word

end LineShell
