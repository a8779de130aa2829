import LineShell.Yaml.Node

/-!
# Tokens

A document as a list of tokens: what is written by columns has an opening and a closing token as
what is written between brackets has, and a key has a token before it, whether a question mark
announces it or only the colon after it shows that it is one.
-/

namespace LineShell.Yaml

/-- The parts of a document. -/
inductive Token
  /-- A line that says something about the document after it. -/
  | directive
  | documentStart
  | documentEnd
  /-- The beginning of a sequence or a mapping by columns, and the end of either. -/
  | blockSequence
  | blockMapping
  | blockEnd
  /-- The brackets of a sequence. -/
  | flowSequence
  | flowSequenceEnd
  /-- The braces of a mapping. -/
  | flowMapping
  | flowMappingEnd
  /-- The hyphen before an item. -/
  | hyphen
  /-- The comma between two entries of a flow collection. -/
  | comma
  /-- What comes next is a key, or the value of one. -/
  | key
  | value
  /-- A label for the next node. -/
  | anchor (label : Nat)
  /-- The node with a label. -/
  | reference (label : Nat)
  /-- What the next node is said to be. -/
  | tag (name : String)
  | scalar (style : ScalarStyle) (text : String)
  deriving DecidableEq, Repr

namespace Token

/-- What is said of a node before it, in either order: its label and its tag. -/
def properties : List Token → Option Nat × Option String × List Token
  | .anchor label :: .tag name :: ts => (some label, some name, ts)
  | .tag name :: .anchor label :: ts => (some label, some name, ts)
  | .anchor label :: ts => (some label, none, ts)
  | .tag name :: ts => (none, some name, ts)
  | ts => (none, none, ts)

/-- Whether a block collection leaves the place of a node empty before some tokens. -/
def isBlockGap : List Token → Bool
  | .key :: _ | .value :: _ | .blockEnd :: _ => true
  | _ => false

/-- Whether a flow collection leaves the place of a node empty before some tokens. -/
def isFlowGap : List Token → Bool
  | .value :: _ | .comma :: _ | .flowSequenceEnd :: _ | .flowMappingEnd :: _ => true
  | _ => false

end Token

end LineShell.Yaml
