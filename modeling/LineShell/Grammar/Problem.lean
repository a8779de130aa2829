import LineShell.Grammar.Basic
import LineShell.Text.Blank
import LineShell.Text.Case
import LineShell.Text.Quoted

/-!
# Problems of grammars

`Grammar.problems` lists what is wrong with a grammar on its own: names that cannot be typed,
options without a form, forms that do not begin as options do, ids and forms that occur twice.
`Grammar.ambiguities` lists the names that it shares with grammars that came before it: there the
earlier command would take lines that the later one could take too.
-/

namespace LineShell

/-- What can be wrong with a grammar. -/
inductive Problem
  /-- There is no name, or a name without tokens. -/
  | emptyName
  /-- A token of a name is empty or holds a blank. -/
  | invalidToken (token : String)
  /-- An option has no form. -/
  | missingForm (id : String)
  /-- A form does not begin with the marker, or is nothing but the marker. -/
  | invalidForm (form : String) (marker : Char)
  /-- An earlier option has the same id. -/
  | duplicateOption (id : String)
  /-- The form has been used before. -/
  | duplicateForm (form : String)
  /-- A name begins an earlier command's name, or the other way round. -/
  | ambiguousName (name existing : String)
  deriving DecidableEq, Repr

/-- The wording of a problem. -/
def Problem.message : Problem → String
  | .emptyName => "command name variant cannot be empty"
  | .invalidToken token => "invalid command name token: " ++ Text.quoted token
  | .missingForm id => "option must define at least one form: " ++ id
  | .invalidForm form marker =>
    "option form must start with '" ++ marker.toString ++ "': " ++ form
  | .duplicateOption id => "duplicate option id: " ++ id
  | .duplicateForm form => "duplicate option form: " ++ form
  | .ambiguousName name existing =>
    "command name '" ++ name ++ "' overlaps with registered command '" ++ existing ++ "'"

namespace Grammar

/-! ### One grammar -/

/-- Whether a token of a name can be typed as one bare word. -/
def isToken (token : String) : Bool :=
  !token.isEmpty && !token.toList.any Text.isBlank

/-- The problems of one name. -/
def nameProblems (name : List String) : List Problem :=
  (if name.isEmpty then [.emptyName] else []) ++
    (name.filter (!isToken ·)).map .invalidToken

/-- Whether a form begins with the marker and has a further character. -/
def isForm (marker : Char) (form : String) : Bool :=
  form.toList.head? == some marker && 2 ≤ form.length

/-- The problems of the forms of one option, after the forms used before. -/
def formProblems (marker : Char) : List String → List String → List Problem
  | _, [] => []
  | used, form :: forms =>
    (if isForm marker form then [] else [.invalidForm form marker]) ++
      (if form ∈ used then [.duplicateForm form] else []) ++
      formProblems marker (form :: used) forms

/-- The problems of some options, after the ids and forms used before. -/
def optionProblems (marker : Char) (ids used : List String) : List OptionGrammar → List Problem
  | [] => []
  | o :: options =>
    (if o.id ∈ ids then [.duplicateOption o.id] else []) ++
      (if o.forms.isEmpty then [.missingForm o.id] else []) ++
      formProblems marker used o.forms ++
      optionProblems marker (o.id :: ids) (o.forms.reverse ++ used) options

/-- Everything that is wrong with a grammar on its own. -/
def problems (g : Grammar) : List Problem :=
  (if g.names.isEmpty then [.emptyName] else []) ++
    g.names.flatMap nameProblems ++
    optionProblems g.marker [] [] g.options

/-! ### A grammar among others -/

/-- Whether the tokens of a name, at least one, begin another name up to case. -/
def beginsName (name other : List String) : Bool :=
  !name.isEmpty && name.length ≤ other.length &&
    (name.zip other).all fun (a, b) => Text.eqIgnoringCase a b

/-- Whether one of two names begins the other. -/
def overlap (name other : List String) : Bool :=
  beginsName name other || beginsName other name

/-- The names of a grammar that overlap with names of the registered ones, registered names
first. -/
def ambiguities (registered : List Grammar) (candidate : Grammar) : List Problem :=
  registered.flatMap fun existing =>
    existing.names.flatMap fun other =>
      (candidate.names.filter (overlap · other)).map fun name =>
        .ambiguousName (" ".intercalate name) (" ".intercalate other)

end Grammar

end LineShell
