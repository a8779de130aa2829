import LineShell.Line.Word

/-!
# Lines with a caret

`Line.parse` cuts a text into words and says which of them holds the caret. A caret at either end
of a word belongs to the word. In the blanks around the words it belongs to none: it starts a new
word, whose index is the number of words before it.
-/

namespace LineShell

/-- A line cut into words, with the place of the caret. -/
structure Line where
  /-- The whole line. -/
  text : String
  /-- The words in order, quotes included. -/
  words : List String
  /-- The number of characters before each word. -/
  starts : List Nat
  /-- The index of the word at the caret, or the index that a word typed there would take. -/
  selected : Nat
  /-- The number of characters between the start of the selected word and the caret. -/
  caretInWord : Nat
  /-- The number of characters before the caret. -/
  caret : Nat
  /-- Whether the caret lies outside all words. -/
  startsWord : Bool
  deriving DecidableEq, Repr

/-- Where a caret stands among words. -/
structure Spot where
  /-- The index of the word that holds the caret or that it would start. -/
  index : Nat
  /-- The number of characters of the word before the caret. -/
  offset : Nat
  /-- Whether the caret lies outside all words. -/
  outside : Bool
  deriving DecidableEq, Repr

/-- The place of a caret among words, the first of which has the given index. -/
def Spot.find (caret : Nat) : Nat → List Word → Spot
  | i, [] => ⟨i, 0, true⟩
  | i, w :: ws =>
    if caret < w.start then ⟨i, 0, true⟩
    else if caret ≤ w.stop then ⟨i, caret - w.start, false⟩
    else find caret (i + 1) ws

namespace Line

/-- Cuts a text into words and finds the caret among them. A caret past the end stands at the
end. -/
def parse (text : String) (caret : Nat) : Line :=
  let words := Word.split text.toList
  let caret := min caret text.length
  let spot := Spot.find caret 0 words
  { text, caret
    words := words.map fun w => .ofList w.chars
    starts := words.map Word.start
    selected := spot.index
    caretInWord := spot.offset
    startsWord := spot.outside }

/-- The line with the caret in another place. -/
def withCaret (line : Line) (caret : Nat) : Line :=
  let words := line.starts.zipWith (fun start word => Word.mk start word.toList) line.words
  let caret := min caret line.text.length
  let spot := Spot.find caret 0 words
  { line with
    caret
    selected := spot.index
    caretInWord := spot.offset
    startsWord := spot.outside }

/-- The place of the word of an index; the length of the line past the last word. -/
def wordStart (line : Line) (i : Nat) : Nat :=
  line.starts.getD i line.text.length

/-- The length of the word of an index; zero past the last word. -/
def wordLength (line : Line) (i : Nat) : Nat :=
  (line.words.getD i "").length

/-- Whether the caret lies outside all words, and a word comes after it. -/
def isBetweenWords (line : Line) : Bool :=
  line.startsWord && line.selected < line.words.length

/-- The word at the caret. -/
def selectedWord (line : Line) : Option String :=
  if line.startsWord then none else line.words[line.selected]?

/-- The part of the word at the caret that lies before the caret. -/
def fragment (line : Line) : String :=
  match line.selectedWord with
  | some word => .ofList (word.toList.take line.caretInWord)
  | none => ""

end Line

end LineShell
