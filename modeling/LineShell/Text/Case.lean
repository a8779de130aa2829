import LineShell.Text.Lower
import LineShell.Text.Cased

/-!
# Comparing text without regard to case

Two texts are the same up to case when their characters, each put in lower case on its own, are
the same. A list is put in order by another map, the lower case of a whole text: there a capital
sigma at the end of a word becomes a final sigma.
-/

namespace LineShell.Text

/-! ### Character by character -/

/-- Every character in lower case on its own. -/
def foldCase (text : String) : List Char :=
  text.toList.flatMap lowerChar

/-- Whether two texts are the same up to case. -/
def eqIgnoringCase (a b : String) : Bool :=
  foldCase a == foldCase b

/-- Whether a text begins with another one up to case. -/
def startsWithIgnoringCase (text start : String) : Bool :=
  (foldCase start).isPrefixOf (foldCase text)

@[simp] theorem eqIgnoringCase_iff {a b : String} :
    eqIgnoringCase a b = true ↔ foldCase a = foldCase b := by
  simp [eqIgnoringCase]

@[simp] theorem startsWithIgnoringCase_iff {text start : String} :
    startsWithIgnoringCase text start = true ↔ foldCase start <+: foldCase text := by
  simp [startsWithIgnoringCase]

/-! ### A whole text -/

/-- Whether a letter with case is met first, once the ignorable characters are passed over. -/
def meetsCased (cs : List Char) : Bool :=
  (cs.dropWhile isCaseIgnorable).head?.any isCased

/-- The lower case of a text, given the characters before it, the nearest one first. -/
def lowerAfter (before : List Char) : List Char → List Char
  | [] => []
  | c :: cs =>
    let here :=
      if c = 'Σ' then [if meetsCased before && !meetsCased cs then 'ς' else 'σ'] else lowerChar c
    here ++ lowerAfter (c :: before) cs

/-- The lower case of a text. A sigma that ends a word is a final sigma. -/
def lowerText (text : String) : String :=
  .ofList (lowerAfter [] text.toList)

end LineShell.Text
