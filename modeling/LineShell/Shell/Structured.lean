import LineShell.Binding.Bind
import LineShell.Grammar.Usage
import LineShell.Shell.Command

/-!
# Commands with a grammar

A structured command works on bound lines. Its grammar decides which lines are for it, what is said
about a line with issues, and what is offered for completion: tokens of its names while the caret is
within one, forms of its options, and what the command itself offers for arguments and values.
-/

namespace LineShell

/-! ### Completion by grammar -/

namespace Grammar

/-- Whether the tokens of a name before an index stand at the beginning of some words, up to quotes
and case. -/
def namePartMatches (words : List String) (name : List String) (i : Nat) : Bool :=
  ((name.take i).zip words).all fun (token, word) => Text.eqIgnoringCase token (unquote word)

/-- The names that have a token for the selected word and agree with the words before it. -/
def openNames (g : Grammar) (line : Line) : List (List String) :=
  g.names.filter fun name =>
    line.selected < name.length && namePartMatches line.words name line.selected

/-- The tokens that could stand at the caret, as long as it is within a name. -/
def nameSuggestions (g : Grammar) (line : Line) : Option (List String) :=
  match g.openNames line with
  | [] => none
  | names =>
    let fragment := unquote line.fragment
    let tokens := names.filterMap (·[line.selected]?)
    let fitting := tokens.filter (Text.startsWithIgnoringCase · fragment)
    some (fitting.foldl (fun found token => if token ∈ found then found else found ++ [token]) [])

/-- How often an option occurs on a line, the occurrence at the caret left out. -/
def otherOccurrences (input : Input) (o : OptionGrammar) : Nat :=
  match input.selected with
  | some ⟨.option (some id), _, _⟩ =>
    if id = o.id then input.optionCount o.id - 1 else input.optionCount o.id
  | _ => input.optionCount o.id

/-- The forms that begin with a fragment, of the options that may occur once more. -/
def optionSuggestions (g : Grammar) (input : Input) (fragment : String) : List String :=
  (g.options.filter fun o => otherOccurrences input o < o.maximum).flatMap fun o =>
    o.forms.filter fun form => fragment.toList.isPrefixOf form.toList

end Grammar

/-! ### Structured commands -/

/-- A command with a grammar. -/
structure Structured (S : Signature) where
  grammar : Grammar
  /-- Runs a bound line under a token. -/
  execute : Input → Token → Program S Unit
  /-- One line about the command. -/
  summary : Shell S → Option String := fun _ => none
  /-- All about the command, if that is to be other than the usual text. -/
  ownDetails : Option (Shell S → Input → Option String) := none
  /-- Whether a line without issues makes sense to the command. -/
  accepts : Shell S → Input → Bool := fun _ _ => true
  /-- What could stand for the argument at the caret, given its text before the caret. -/
  suggestArgument : Shell S → Input → String → List String := fun _ _ _ => []
  /-- What could stand for the value at the caret of an option, given its text before the caret. -/
  suggestValue : Shell S → Input → String → String → List String := fun _ _ _ _ => []

namespace Structured

variable {S : Signature} (c : Structured S)

/-- All about the command. -/
def details (shell : Shell S) (input : Input) : Option String :=
  match c.ownDetails with
  | some details => details shell input
  | none => some (c.grammar.usualDetails (c.summary shell))

/-- Says what is wrong with a line, then all about the command. -/
def explain (input : Input) (issues : List Issue) : Program S Unit := do
  Program.writeErrorLines (issues.map (·.message))
  let shell ← Program.shell
  match c.details shell input with
  | some text => Program.writeErrorLine text
  | none => return

/-- Says whether a line is for the command. -/
def canHandle (line : Line) : Program S Answer :=
  match c.grammar.bind line with
  | .mismatch _ => return .notMine
  | .bound input [] => do
    return if c.accepts (← Program.shell) input then .valid else .invalid
  | .bound input issues => do
    c.explain input issues
    return .invalid

/-- What could stand at the caret of a line. -/
def suggest (shell : Shell S) (line : Line) : List String :=
  match c.grammar.nameSuggestions line with
  | some tokens => tokens
  | none =>
    match c.grammar.bind line with
    | .mismatch _ => []
    | .bound input _ =>
      match input.selected with
      | none => []
      | some selected =>
        let fragment := line.fragment
        if c.grammar.isOptionLike fragment then c.grammar.optionSuggestions input fragment
        else match selected.role with
          | .name => []
          | .option _ => c.grammar.optionSuggestions input fragment
          | .value id => c.suggestValue shell input id (unquote fragment)
          | .argument =>
            c.suggestArgument shell input (unquote fragment) ++
              if selected.isEmpty then c.grammar.optionSuggestions input "" else []

/-- The command as any other. -/
def toCommand : Command S where
  name := c.grammar.displayName
  grammar := some c.grammar
  canHandle := c.canHandle
  execute line token :=
    match c.grammar.bind line with
    | .mismatch _ => return
    | .bound input _ => c.execute input token
  suggest := c.suggest
  summary := c.summary
  details shell line :=
    match c.grammar.bind line with
    | .mismatch _ => none
    | .bound input _ => c.details shell input

end Structured

end LineShell
