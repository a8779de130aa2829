import LineShell.Text.Blank

/-!
# Quoting

A double quote opens a span in which blanks do not separate; the next double quote that is not
escaped closes it. Inside a span a backslash escapes the character after it, outside it is a
character like any other.

`Quoting.step` is the automaton that says where a reader stands. `unquote` takes the quotes and
escapes off, `quote` puts them on, and `unquote_quote` says that the second undoes the first.
-/

namespace LineShell

/-- Where the reader of a line stands: outside a quoted span, inside one, or inside one right after
a backslash. -/
inductive Quoting
  | bare
  | quoted
  | escaped
  deriving DecidableEq, Repr

namespace Quoting

/-- Where the reader stands after one more character. -/
def step : Quoting → Char → Quoting
  | .bare, c => if c = '"' then .quoted else .bare
  | .quoted, c => if c = '\\' then .escaped else if c = '"' then .bare else .quoted
  | .escaped, _ => .quoted

/-- Where the reader stands after some characters. -/
def run (q : Quoting) (cs : List Char) : Quoting :=
  cs.foldl step q

@[simp] theorem run_nil (q : Quoting) : q.run [] = q := rfl

@[simp] theorem run_cons (q : Quoting) (c : Char) (cs : List Char) :
    q.run (c :: cs) = (q.step c).run cs := rfl

@[simp] theorem run_append (q : Quoting) (xs ys : List Char) :
    q.run (xs ++ ys) = (q.run xs).run ys := by simp [run]

end Quoting

/-! ### Taking quotes off -/

/-- The value of some characters, read from outside a quoted span or from inside one: quotes are
dropped, and inside a span a backslash before a quote or a backslash. -/
def unquoteFrom : Bool → List Char → List Char
  | _, [] => []
  | inside, '"' :: cs => unquoteFrom (!inside) cs
  | true, '\\' :: '"' :: cs => '"' :: unquoteFrom true cs
  | true, '\\' :: '\\' :: cs => '\\' :: unquoteFrom true cs
  | inside, c :: cs => c :: unquoteFrom inside cs

/-- The value of a word: its text without quotes, and with escapes resolved. -/
def unquote (word : String) : String :=
  .ofList (unquoteFrom false word.toList)

/-! ### Putting quotes on -/

/-- The characters with a backslash before each quote and each backslash. -/
def escapeQuotes : List Char → List Char
  | [] => []
  | c :: cs => if c = '"' ∨ c = '\\' then '\\' :: c :: escapeQuotes cs else c :: escapeQuotes cs

/-- Whether a text would not be read back as one word with itself as value, unless quoted. -/
def needsQuotes (text : String) : Bool :=
  text.isEmpty || text.toList.any fun c => Text.isBlank c || c == '"'

/-- The text, quoted if it needs quotes. -/
def quote (text : String) : String :=
  if needsQuotes text then .ofList ('"' :: escapeQuotes text.toList ++ ['"']) else text

theorem unquoteFrom_escapeQuotes (cs : List Char) :
    unquoteFrom true (escapeQuotes cs ++ ['"']) = cs := by
  induction cs with
  | nil => rfl
  | cons c cs ih =>
    by_cases hq : c = '"'
    · subst hq; simpa [escapeQuotes, unquoteFrom] using ih
    by_cases hb : c = '\\'
    · subst hb; simpa [escapeQuotes, unquoteFrom] using ih
    · simp [escapeQuotes, hq, hb, unquoteFrom, ih]

theorem unquoteFrom_of_notMem {cs : List Char} (h : '"' ∉ cs) : unquoteFrom false cs = cs := by
  induction cs with
  | nil => rfl
  | cons c cs ih =>
    have hc : c ≠ '"' := fun e => h (by simp [e])
    have ih := ih fun m => h (by simp [m])
    simp [unquoteFrom, ih]

/-- Every text is the value of what `quote` makes of it. -/
theorem unquote_quote (text : String) : unquote (quote text) = text := by
  unfold quote
  split
  · simp [unquote, unquoteFrom, unquoteFrom_escapeQuotes]
  · rename_i h
    have : '"' ∉ text.toList := by
      intro m
      exact h (by simp [needsQuotes]; exact Or.inr ⟨_, m, Or.inr rfl⟩)
    simp [unquote, unquoteFrom_of_notMem this]

end LineShell
