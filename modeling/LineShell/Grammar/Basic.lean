import LineShell.Count

/-!
# The grammar of a command

A grammar says how a command is called: its names, each a sequence of tokens, the options it knows,
and how many arguments it takes. An option has an id, the forms it is written in, a say on whether a
value follows it, and bounds on how often it may occur.

Grammars may come in with a maximum below its minimum, or with an option that must take a value but
is not said to take one. They are put right whenever they are read: `maximum` is never below the
minimum and `acceptsValue` holds wherever a value is required. `Grammar.finish` puts right what is
stored.
-/

namespace LineShell

/-! ### Options -/

/-- The grammar of one option, as declared. -/
structure OptionGrammar where
  /-- The name by which a command asks for the option. -/
  id : String
  /-- The spellings of the option on a line. -/
  forms : List String := []
  /-- Whether the option is said to take a value. -/
  mayTakeValue : Bool := false
  /-- Whether a value must follow every occurrence. -/
  mustTakeValue : Bool := false
  /-- How often the option has to occur. -/
  minimum : Nat := 0
  /-- The declared bound on how often the option may occur. -/
  declaredMaximum : Nat := 1
  deriving DecidableEq, Repr

namespace OptionGrammar

/-- Whether the option takes the word after it as its value. -/
def acceptsValue (o : OptionGrammar) : Bool :=
  o.mayTakeValue || o.mustTakeValue

/-- How often the option may occur, never less than it has to. -/
def maximum (o : OptionGrammar) : Nat :=
  max o.declaredMaximum o.minimum

/-- Whether a word is one of the forms. -/
def hasForm (o : OptionGrammar) (word : String) : Bool :=
  o.forms.contains word

/-- The option with its stored bounds put right. -/
def finish (o : OptionGrammar) : OptionGrammar :=
  { o with mayTakeValue := o.acceptsValue, declaredMaximum := o.maximum }

theorem minimum_le_maximum (o : OptionGrammar) : o.minimum ≤ o.maximum :=
  Nat.le_max_right ..

@[simp] theorem id_finish (o : OptionGrammar) : o.finish.id = o.id := rfl

@[simp] theorem forms_finish (o : OptionGrammar) : o.finish.forms = o.forms := rfl

@[simp] theorem mustTakeValue_finish (o : OptionGrammar) :
    o.finish.mustTakeValue = o.mustTakeValue := rfl

@[simp] theorem minimum_finish (o : OptionGrammar) : o.finish.minimum = o.minimum := rfl

@[simp] theorem maximum_finish (o : OptionGrammar) : o.finish.maximum = o.maximum := by
  simp only [maximum, finish]; omega

@[simp] theorem acceptsValue_finish (o : OptionGrammar) :
    o.finish.acceptsValue = o.acceptsValue := by
  simp [acceptsValue, finish]

@[simp] theorem hasForm_finish (o : OptionGrammar) (word : String) :
    o.finish.hasForm word = o.hasForm word := rfl

/-! ### Declaring an option -/

/-- The option with more forms. -/
def withForms (o : OptionGrammar) (forms : List String) : OptionGrammar :=
  { o with forms := o.forms ++ forms }

/-- The option, taking the word after it as its value. -/
def acceptingValue (o : OptionGrammar) : OptionGrammar :=
  { o with mayTakeValue := true }

/-- The option, asking for a value after every occurrence. -/
def requiringValue (o : OptionGrammar) : OptionGrammar :=
  { o with mayTakeValue := true, mustTakeValue := true }

/-- The option with bounds on its occurrences. -/
def occurring (o : OptionGrammar) (minimum maximum : Nat) : OptionGrammar :=
  { o with minimum, declaredMaximum := maximum }

end OptionGrammar

/-! ### Commands -/

/-- The grammar of a command, as declared. -/
structure Grammar where
  /-- The names of the command, each a sequence of tokens. The first one is its own, the others
  are synonyms. -/
  names : List (List String)
  /-- The character that begins an option. -/
  marker : Char := '-'
  /-- The options, in the order of their declaration. -/
  options : List OptionGrammar := []
  /-- How many arguments are needed. -/
  minimum : Nat := 0
  /-- The declared bound on the number of arguments. -/
  declaredMaximum : Nat := 0
  deriving DecidableEq, Repr

namespace Grammar

/-- How many arguments may be given, never less than are needed. -/
def maximum (g : Grammar) : Nat :=
  max g.declaredMaximum g.minimum

/-- The first name, as one text. -/
def displayName (g : Grammar) : String :=
  " ".intercalate (g.names.headD [])

/-- The first option with an id. -/
def option? (g : Grammar) (id : String) : Option OptionGrammar :=
  g.options.find? (·.id == id)

/-- The first option that is written as the word. -/
def optionWithForm? (g : Grammar) (word : String) : Option OptionGrammar :=
  g.options.find? (·.hasForm word)

/-- Whether a word begins as an option does. -/
def isOptionLike (g : Grammar) (word : String) : Bool :=
  word.toList.head? == some g.marker

/-- The grammar with its stored bounds put right. -/
def finish (g : Grammar) : Grammar :=
  { g with options := g.options.map OptionGrammar.finish, declaredMaximum := g.maximum }

theorem minimum_le_maximum (g : Grammar) : g.minimum ≤ g.maximum :=
  Nat.le_max_right ..

@[simp] theorem names_finish (g : Grammar) : g.finish.names = g.names := rfl

@[simp] theorem options_finish (g : Grammar) :
    g.finish.options = g.options.map OptionGrammar.finish := rfl

@[simp] theorem minimum_finish (g : Grammar) : g.finish.minimum = g.minimum := rfl

@[simp] theorem maximum_finish (g : Grammar) : g.finish.maximum = g.maximum := by
  simp only [maximum, finish]; omega

/-! ### Declaring a command -/

/-- The grammar of a command with a name, no options and no arguments. -/
def named (name : List String) : Grammar :=
  { names := [name] }

/-- The grammar with a further name. -/
def orNamed (g : Grammar) (name : List String) : Grammar :=
  { g with names := g.names ++ [name] }

/-- The grammar with a further option. -/
def withOption (g : Grammar) (o : OptionGrammar) : Grammar :=
  { g with options := g.options ++ [o] }

/-- The grammar of a command that needs so many arguments. -/
def atLeast (g : Grammar) (n : Nat) : Grammar :=
  { g with minimum := n }

/-- The grammar of a command that takes up to so many arguments. -/
def atMost (g : Grammar) (n : Nat) : Grammar :=
  { g with declaredMaximum := n }

/-- The grammar of a command that takes just so many arguments. -/
def exactly (g : Grammar) (n : Nat) : Grammar :=
  (g.atLeast n).atMost n

/-- The grammar of a command that takes any number of arguments from its minimum on. -/
def anyNumber (g : Grammar) : Grammar :=
  g.atMost maxCount

end Grammar

end LineShell
