/-!
# Nodes

What a configuration file says, apart from how it is laid out: texts, sequences and mappings, nested
to any depth. A node may have a label, by which references elsewhere in the document stand for it.
-/

namespace LineShell.Yaml

/-- The styles in which a text is written. -/
inductive ScalarStyle
  /-- As it is. -/
  | plain
  /-- Between single or double quotes. -/
  | quoted
  /-- By lines, with their breaks. -/
  | literal
  /-- By lines, with their breaks folded. -/
  | folded
  deriving DecidableEq, Repr

/-- The contents of a document. -/
inductive Node
  /-- A text, and what it is said to be. -/
  | scalar (label : Option Nat) (tag : Option String) (style : ScalarStyle) (text : String)
  /-- Nodes in their order. -/
  | sequence (label : Option Nat) (items : List Node)
  /-- Pairs of a key and its value in their order. A key may occur more than once. -/
  | mapping (label : Option Nat) (entries : List (Node × Node))
  /-- The node with a label. -/
  | reference (label : Nat)
  deriving Repr

namespace Node

/-- What stands where nothing is written. -/
def nothing : Node := .scalar none none .plain ""

mutual

/-- The node with a label in a node: the one that begins last if there are several. -/
def labelled? (label : Nat) : Node → Option Node
  | .scalar l tag style text =>
    if l = some label then some (.scalar l tag style text) else none
  | .sequence l items =>
    labelledItem? label items <|> if l = some label then some (.sequence l items) else none
  | .mapping l entries =>
    labelledEntry? label entries <|> if l = some label then some (.mapping l entries) else none
  | .reference _ => none

/-- The node with a label in some nodes. -/
def labelledItem? (label : Nat) : List Node → Option Node
  | [] => none
  | item :: items => labelledItem? label items <|> labelled? label item

/-- The node with a label in some entries. -/
def labelledEntry? (label : Nat) : List (Node × Node) → Option Node
  | [] => none
  | (key, value) :: entries =>
    labelledEntry? label entries <|> labelled? label value <|> labelled? label key

end

/-- What a node stands for, as a part of a whole: a reference stands for the node with its label. A
label is never on a reference, so one step is enough. -/
def resolve (node whole : Node) : Node :=
  match node with
  | .reference label => (labelled? label whole).getD .nothing
  | node => node

end Node

end LineShell.Yaml
