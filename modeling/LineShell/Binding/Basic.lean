import LineShell.Grammar.Basic
import LineShell.Line.Basic
import LineShell.Text.Case

/-!
# Lines bound to a grammar

Binding a line to a grammar says what each word is: a token of the command's name, an argument, an
option, or the value of the option before it. Whatever is wrong with the line is collected as
issues; nothing stops at the first one. A line that does not begin with any name of the command is
not bound at all: it is meant for another command.
-/

namespace LineShell

/-! ### Elements -/

/-- What a word of a bound line is. -/
inductive Role
  /-- A token of the name of the command. -/
  | name
  /-- An argument. -/
  | argument
  /-- An option, with the id of the declared option that it is, if there is one. -/
  | option (owner : Option String)
  /-- The value of an option of an id. -/
  | value (owner : String)
  deriving DecidableEq, Repr

/-- The id of the option that a word belongs to. -/
def Role.owner : Role → Option String
  | .option owner => owner
  | .value owner => some owner
  | _ => none

/-- A word of a bound line. -/
structure Element where
  /-- What the word is. -/
  role : Role
  /-- The word, quotes included. -/
  text : String
  /-- The index of the word in the line. -/
  index : Nat
  deriving DecidableEq, Repr

namespace Element

/-- The value of the word. -/
def value (e : Element) : String :=
  unquote e.text

/-- Whether the element stands for a word that is not typed yet. -/
def isEmpty (e : Element) : Bool :=
  e.text.isEmpty

/-- Whether the element is an argument. -/
def isArgument (e : Element) : Bool :=
  e.role == .argument

end Element

/-! ### Bound lines -/

/-- A line bound to a grammar. -/
structure Input where
  /-- The words in order. -/
  elements : List Element
  /-- The number of words that make up the name of the command. -/
  nameLength : Nat
  /-- The word at the caret. Where the caret starts a new word it is an empty element in the role
  that the word would have. -/
  selected : Option Element
  deriving DecidableEq, Repr

namespace Input

/-- The words that make up the name of the command. -/
def name (input : Input) : List Element :=
  input.elements.take input.nameLength

/-- The arguments in order. -/
def arguments (input : Input) : List Element :=
  input.elements.filter (·.isArgument)

/-- The values of the arguments in order. -/
def argumentValues (input : Input) : List String :=
  input.arguments.map (·.value)

/-- The value of the argument at an index. -/
def argument? (input : Input) (i : Nat) : Option String :=
  input.argumentValues[i]?

/-- How often an option occurs. -/
def optionCount (input : Input) (id : String) : Nat :=
  input.elements.countP (·.role == .option (some id))

/-- Whether an option occurs. -/
def hasOption (input : Input) (id : String) : Bool :=
  input.optionCount id > 0

/-- The values given to an option, in order. -/
def optionValues (input : Input) (id : String) : List String :=
  (input.elements.filter (·.role == .value id)).map (·.value)

/-- The first value given to an option. -/
def optionValue? (input : Input) (id : String) : Option String :=
  (input.optionValues id).head?

end Input

/-! ### Issues -/

/-- What can be wrong with a line. -/
inductive Issue
  /-- The line does not begin with a name of the command. -/
  | nameMismatch (name : String)
  /-- There are fewer arguments than needed. -/
  | tooFewArguments (minimum found : Nat)
  /-- There are more arguments than allowed. -/
  | tooManyArguments (maximum found : Nat)
  /-- A word begins as an option does but is no form of any. -/
  | unrecognizedOption (word : String)
  /-- An option occurs less often than it has to. -/
  | tooFewOccurrences (option : String) (minimum found : Nat)
  /-- An option occurs more often than it may. -/
  | tooManyOccurrences (option : String) (maximum found : Nat)
  /-- An option that must take a value is not followed by one. -/
  | missingValue (word : String)
  deriving DecidableEq, Repr

/-- The wording of an issue. -/
def Issue.message : Issue → String
  | .nameMismatch name => "Input does not match command '" ++ name ++ "'"
  | .tooFewArguments minimum found =>
    s!"Too few arguments: expected at least {minimum}, found {found}"
  | .tooManyArguments maximum found =>
    s!"Too many arguments: expected at most {maximum}, found {found}"
  | .unrecognizedOption word => "Unrecognized option '" ++ word ++ "'"
  | .tooFewOccurrences option minimum found =>
    "Option '" ++ option ++ s!"' must be specified at least {minimum} time(s), found {found}"
  | .tooManyOccurrences option maximum found =>
    "Option '" ++ option ++ s!"' may be specified at most {maximum} time(s), found {found}"
  | .missingValue word => "Option '" ++ word ++ "' requires a value"

/-! ### Results -/

/-- The outcome of binding a line to a grammar. -/
inductive Binding
  /-- The line is not meant for the command of the given name. -/
  | mismatch (name : String)
  /-- The line is meant for the command; the issues say what is wrong with it. -/
  | bound (input : Input) (issues : List Issue)
  deriving DecidableEq, Repr

namespace Binding

/-- Whether the line is not meant for the command. -/
def isMismatch : Binding → Bool
  | .mismatch _ => true
  | .bound .. => false

/-- The bound line, whatever its issues. -/
def input? : Binding → Option Input
  | .mismatch _ => none
  | .bound input _ => some input

/-- All issues, a mismatch included. -/
def issues : Binding → List Issue
  | .mismatch name => [.nameMismatch name]
  | .bound _ issues => issues

/-- The bound line if nothing is wrong with it, else the issues. -/
def strict : Binding → Except (List Issue) Input
  | .mismatch name => .error [.nameMismatch name]
  | .bound input [] => .ok input
  | .bound _ issues => .error issues

end Binding

end LineShell
