import LineShell.Binding.Basic

/-!
# Binding a line

`Grammar.bind` finds the first name that the line begins with, reads the other words from left to
right, counts, and determines the element at the caret. A word is an option if it begins with the
marker, whether it is declared or not; the word after an option that accepts a value is its value
unless that word begins with the marker too.
-/

namespace LineShell.Grammar

/-! ### The name -/

/-- Whether a name stands at the beginning of some words, up to quotes and case. -/
def nameMatches (words : List String) (name : List String) : Bool :=
  !name.isEmpty && name.length ≤ words.length &&
    (name.zip words).all fun (token, word) => Text.eqIgnoringCase token (unquote word)

/-- The first name that the line begins with. -/
def matchingName? (g : Grammar) (line : Line) : Option (List String) :=
  g.names.find? (nameMatches line.words)

/-! ### The other words -/

/-- What has been read from some words. -/
structure Reading where
  /-- The words with their roles. -/
  elements : List Element := []
  /-- The ids of the declared options among them, once for each occurrence. -/
  occurrences : List String := []
  /-- What is wrong with the words by themselves. -/
  issues : List Issue := []
  deriving DecidableEq, Repr

namespace Reading

/-- The reading with an argument in front. -/
def argument (r : Reading) (i : Nat) (word : String) : Reading :=
  { r with elements := ⟨.argument, word, i⟩ :: r.elements }

/-- The reading with an unknown option in front. -/
def unknownOption (r : Reading) (i : Nat) (word : String) : Reading :=
  { r with elements := ⟨.option none, word, i⟩ :: r.elements
           issues := .unrecognizedOption word :: r.issues }

/-- The reading with an option in front. -/
def option (r : Reading) (o : OptionGrammar) (i : Nat) (word : String) : Reading :=
  { r with elements := ⟨.option (some o.id), word, i⟩ :: r.elements
           occurrences := o.id :: r.occurrences }

/-- The reading with the value of an option in front. -/
def value (r : Reading) (o : OptionGrammar) (i : Nat) (word : String) : Reading :=
  { r with elements := ⟨.value o.id, word, i⟩ :: r.elements }

/-- The reading with the remark that the option in front of it has no value, if it must have
one. -/
def withoutValue (r : Reading) (o : OptionGrammar) (word : String) : Reading :=
  if o.mustTakeValue then { r with issues := .missingValue word :: r.issues } else r

end Reading

/-- Reads the words after the name, the first of which has the given index. -/
def read (g : Grammar) (i : Nat) : List String → Reading
  | [] => {}
  | word :: words =>
    if !g.isOptionLike word then
      (g.read (i + 1) words).argument i word
    else match g.optionWithForm? word with
      | none => (g.read (i + 1) words).unknownOption i word
      | some o =>
        if !o.acceptsValue then
          (g.read (i + 1) words).option o i word
        else match words with
          | [] => (({} : Reading).withoutValue o word).option o i word
          | next :: rest =>
            if g.isOptionLike next then
              ((g.read (i + 1) (next :: rest)).withoutValue o word).option o i word
            else
              ((g.read (i + 2) rest).value o (i + 1) next).option o i word

/-! ### The counts -/

/-- What is wrong with the number of occurrences of an option. -/
def occurrenceIssue (o : OptionGrammar) (found : Nat) : List Issue :=
  let shown := o.forms.headD o.id
  if found < o.minimum then [.tooFewOccurrences shown o.minimum found]
  else if found > o.maximum then [.tooManyOccurrences shown o.maximum found]
  else []

/-- What is wrong with the number of arguments. -/
def argumentIssue (g : Grammar) (found : Nat) : List Issue :=
  if found < g.minimum then [.tooFewArguments g.minimum found]
  else if found > g.maximum then [.tooManyArguments g.maximum found]
  else []

/-! ### The element at the caret -/

/-- The element of an index. -/
def elementAt? (elements : List Element) (i : Nat) : Option Element :=
  elements.find? (·.index == i)

/-- The role of a word that would be typed at the caret: the value of the option before it, if that
one accepts a value and its value does not come after the caret already, else an argument. -/
def slotRole (g : Grammar) (line : Line) (elements : List Element) : Role :=
  let valueTaken :=
    line.isBetweenWords &&
      match elementAt? elements line.selected with
      | some ⟨.value _, _, _⟩ => true
      | _ => false
  let before := if line.selected = 0 then none else elementAt? elements (line.selected - 1)
  match before with
  | some ⟨.option (some id), _, _⟩ =>
    match g.option? id with
    | some o => if o.acceptsValue && !valueTaken then .value o.id else .argument
    | none => .argument
  | _ => .argument

/-- The element at the caret. There is none where the caret starts a new word within the name. -/
def selectedElement (g : Grammar) (line : Line) (elements : List Element) (nameLength : Nat) :
    Option Element :=
  if !line.startsWord then elementAt? elements line.selected
  else if line.selected < nameLength then none
  else some ⟨g.slotRole line elements, "", line.selected⟩

/-! ### All together -/

/-- The words of the name as elements. -/
def nameElements (words : List String) : List Element :=
  words.mapIdx fun i word => ⟨.name, word, i⟩

/-- Binds a line to a grammar. -/
def bind (g : Grammar) (line : Line) : Binding :=
  match g.matchingName? line with
  | none => .mismatch g.displayName
  | some name =>
    let n := name.length
    let reading := g.read n (line.words.drop n)
    let elements := nameElements (line.words.take n) ++ reading.elements
    let issues :=
      reading.issues ++
        g.options.flatMap (fun o => occurrenceIssue o (reading.occurrences.count o.id)) ++
        g.argumentIssue (elements.countP (·.isArgument))
    .bound ⟨elements, n, g.selectedElement line elements n⟩ issues

end LineShell.Grammar
