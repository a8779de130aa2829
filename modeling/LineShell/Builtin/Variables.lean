/-!
# Session variables

Variables have texts for names and values and are kept in the order of their names. A reference is a
dollar sign directly followed by a letter or an underscore of ASCII and all letters, digits and
underscores after that. `expand` puts values in the place of references, from left to right; what it
puts in is not looked at again.
-/

namespace LineShell

/-- Names with values, in the order of the names. -/
structure Variables where
  entries : List (String × String) := []
  deriving DecidableEq, Repr

namespace Variables

/-- The value of a variable. -/
def get? (vars : Variables) (name : String) : Option String :=
  vars.entries.lookup name

/-- The names in order. -/
def names (vars : Variables) : List String :=
  vars.entries.map (·.1)

/-- The entries with a value for a name put in its place. -/
def insertEntry (name value : String) : List (String × String) → List (String × String)
  | [] => [(name, value)]
  | (n, v) :: rest =>
    if name < n then (name, value) :: (n, v) :: rest
    else if name = n then (name, value) :: rest
    else (n, v) :: insertEntry name value rest

/-- The variables with a value for a name, whatever its value before. -/
def insert (vars : Variables) (name value : String) : Variables :=
  ⟨insertEntry name value vars.entries⟩

/-- The variables without a name. -/
def erase (vars : Variables) (name : String) : Variables :=
  ⟨vars.entries.filter (·.1 != name)⟩

/-! ### References -/

/-- Whether a character can begin the name in a reference. -/
def isNameStart (c : Char) : Bool :=
  ('a' ≤ c && c ≤ 'z') || ('A' ≤ c && c ≤ 'Z') || c == '_'

/-- Whether a character can go on in the name in a reference. -/
def isNameChar (c : Char) : Bool :=
  isNameStart c || ('0' ≤ c && c ≤ '9')

/-- The characters with the values put in; an unknown variable has the empty value. -/
def expandChars (vars : Variables) : List Char → List Char
  | [] => []
  | c :: cs =>
    if c = '$' ∧ cs.head?.any isNameStart then
      ((vars.get? (.ofList (cs.takeWhile isNameChar))).getD "").toList ++
        vars.expandChars (cs.dropWhile isNameChar)
    else
      c :: vars.expandChars cs
termination_by cs => cs.length
decreasing_by
  · have := (List.dropWhile_sublist isNameChar : (cs.dropWhile isNameChar).Sublist cs).length_le
    simp only [List.length_cons]; omega
  · simp

/-- The text with the values put in. -/
def expand (vars : Variables) (text : String) : String :=
  .ofList (vars.expandChars text.toList)

end Variables

end LineShell
