import LineShell.Grammar.Basic

/-!
# The usage line

A grammar on one line: the name, the options with their values, then the arguments. What may be
left out stands in square brackets, and what may come again is followed by dots. The usage line is
part of what is usually said about a command.
-/

namespace LineShell

/-- An option as the usage line shows it. -/
def OptionGrammar.usage (o : OptionGrammar) : String :=
  let forms := "|".intercalate o.forms
  let body :=
    if o.mustTakeValue then forms ++ " <value>"
    else if o.acceptsValue then forms ++ " [value]"
    else forms
  let needed := if o.minimum > 0 then body else "[" ++ body ++ "]"
  if o.maximum > 1 then needed ++ "..." else needed

namespace Grammar

/-- The largest number of optional arguments that are shown one by one. -/
def maxListedArguments : Nat := 3

/-- The arguments as the usage line shows them. -/
def argumentUsage (g : Grammar) : List String :=
  let optional := g.maximum - g.minimum
  List.replicate g.minimum "<arg>" ++
    if optional > maxListedArguments then ["[arg...]"] else List.replicate optional "[arg]"

/-- The usage line of a command. -/
def usage (g : Grammar) : String :=
  " ".intercalate (g.displayName :: g.options.map OptionGrammar.usage ++ g.argumentUsage)

/-- The synonyms of a command, if it has any. -/
def aliases (g : Grammar) : Option String :=
  match g.names.tail with
  | [] => none
  | names => some (", ".intercalate (names.map (" ".intercalate ·)))

/-- All about a command that has nothing else to say: its summary, the usage line, and its
synonyms. -/
def usualDetails (g : Grammar) (summary : Option String) : String :=
  let summary := match summary with
    | some s => [s, ""]
    | none => []
  let aliases := match g.aliases with
    | some a => ["Aliases: " ++ a]
    | none => []
  "\n".intercalate (summary ++ ["Usage: " ++ g.usage] ++ aliases)

end Grammar

end LineShell
