import LineShell.Yaml.Lexer

/-!
# Documents

Tokens make up nodes, and a text holds one document, with lines about it and markers around it or
without. The readers count down from a number that the length of the text bounds; those of
collections keep what they have read, the last part first.
-/

namespace LineShell.Yaml

namespace Node

/-- A text with a tag. The tag that is an exclamation mark alone says nothing. -/
def ofScalar (label : Option Nat) (tag : Option String) (style : ScalarStyle) (text : String) :
    Node :=
  .scalar label (tag.filter (· != "!")) style text

mutual

/-- Reads a node. Only some places take block collections, and some of these take a sequence in the
column of the mapping around it, which has no token for its beginning and end. Where nothing but a
label or a tag is given, the text is empty. -/
def read (block hanging : Bool) : Nat → List Token → Option (Node × List Token)
  | 0, _ => none
  | _, .reference label :: ts => some (.reference label, ts)
  | n + 1, ts =>
    let (label, tag, ts) := Token.properties ts
    match block, hanging, ts with
    | _, true, .hyphen :: ts => (hangingItems [] n ts).map fun (is, ts) => (.sequence label is, ts)
    | _, _, .scalar style text :: ts => some (ofScalar label tag style text, ts)
    | _, _, .flowSequence :: ts =>
      (flowItems true [] n ts).map fun (is, ts) => (.sequence label is, ts)
    | _, _, .flowMapping :: ts =>
      (flowEntries true [] n ts).map fun (es, ts) => (.mapping label es, ts)
    | true, _, .blockSequence :: ts =>
      (blockItems [] n ts).map fun (is, ts) => (.sequence label is, ts)
    | true, _, .blockMapping :: ts =>
      (blockEntries [] n ts).map fun (es, ts) => (.mapping label es, ts)
    | _, _, ts =>
      if label.isSome || tag.isSome then some (.scalar label tag .plain "", ts) else none

/-- Reads the items of a block sequence up to its end. -/
def blockItems (done : List Node) : Nat → List Token → Option (List Node × List Token)
  | 0, _ => none
  | n + 1, .hyphen :: ts =>
    match ts with
    | .hyphen :: _ | .blockEnd :: _ => blockItems (.nothing :: done) n ts
    | _ => do
      let (item, ts) ← read true false n ts
      blockItems (item :: done) n ts
  | _, .blockEnd :: ts => some (done.reverse, ts)
  | _, _ => none

/-- Reads the items of a sequence in the column of a mapping, after the first hyphen. -/
def hangingItems (done : List Node) : Nat → List Token → Option (List Node × List Token)
  | 0, _ => none
  | n + 1, ts => do
    let (item, ts) ←
      if ts.head? = some .hyphen ∨ Token.isBlockGap ts then some (.nothing, ts)
      else read true false n ts
    match ts with
    | .hyphen :: ts => hangingItems (item :: done) n ts
    | _ => return ((item :: done).reverse, ts)

/-- Reads the entries of a block mapping up to its end. -/
def blockEntries (done : List (Node × Node)) :
    Nat → List Token → Option (List (Node × Node) × List Token)
  | 0, _ => none
  | n + 1, .key :: ts => do
    let (key, ts) ← if Token.isBlockGap ts then some (.nothing, ts) else read true true n ts
    let (value, ts) ← match ts with
      | .value :: ts =>
        if Token.isBlockGap ts then some (.nothing, ts) else read true true n ts
      | _ => some (.nothing, ts)
    blockEntries ((key, value) :: done) n ts
  | _, .blockEnd :: ts => some (done.reverse, ts)
  | _, _ => none

/-- Reads the value of a key in a flow collection, if it has one. -/
def flowValue : Nat → List Token → Option (Node × List Token)
  | 0, _ => none
  | n + 1, .value :: ts =>
    match ts with
    | .comma :: _ | .flowSequenceEnd :: _ | .flowMappingEnd :: _ => some (.nothing, ts)
    | _ => read false false n ts
  | _, ts => some (.nothing, ts)

/-- Reads the items of a flow sequence up to its end, the first one without a comma before it. A
pair is a mapping of its own; where its key is empty, the token that shows it is passed over. -/
def flowItems (first : Bool) (done : List Node) : Nat → List Token → Option (List Node × List Token)
  | 0, _ => none
  | _, .flowSequenceEnd :: ts => some (done.reverse, ts)
  | n + 1, ts => do
    let ts ← if first then some ts else if ts.head? = some .comma then some (ts.drop 1) else none
    match ts with
    | .flowSequenceEnd :: ts => return (done.reverse, ts)
    | .key :: ts =>
      let (key, ts) ←
        match ts with
        | .value :: ts | .comma :: ts | .flowSequenceEnd :: ts => some (.nothing, ts)
        | _ => read false false n ts
      let (value, ts) ← flowValue n ts
      flowItems false (.mapping none [(key, value)] :: done) n ts
    | _ =>
      let (item, ts) ← read false false n ts
      flowItems false (item :: done) n ts

/-- Reads the entries of a flow mapping up to its end, the first one without a comma before it. -/
def flowEntries (first : Bool) (done : List (Node × Node)) :
    Nat → List Token → Option (List (Node × Node) × List Token)
  | 0, _ => none
  | _, .flowMappingEnd :: ts => some (done.reverse, ts)
  | n + 1, ts => do
    let ts ← if first then some ts else if ts.head? = some .comma then some (ts.drop 1) else none
    match ts with
    | .flowMappingEnd :: ts => return (done.reverse, ts)
    | .key :: ts =>
      let (key, ts) ← if Token.isFlowGap ts then some (.nothing, ts) else read false false n ts
      let (value, ts) ← flowValue n ts
      flowEntries false ((key, value) :: done) n ts
    | _ =>
      let (key, ts) ← read false false n ts
      flowEntries false ((key, .nothing) :: done) n ts

end

end Node

/-- Reads the document in some tokens. Where nothing is written there is an empty text. -/
def readDocument (n : Nat) (ts : List Token) : Option (Node × List Token) :=
  match ts.dropWhile (· == .directive) with
  | [] => if ts.isEmpty then some (.nothing, []) else none
  | .documentStart :: rest =>
    match rest with
    | [] | .directive :: _ | .documentStart :: _ | .documentEnd :: _ => some (.nothing, rest)
    | _ => Node.read true false n rest
  | _ => if ts.head? = some .directive then none else Node.read true false n ts

/-- The one document that a text holds. -/
def document? (text : String) : Option Node := do
  let ts ← Token.ofText? text
  let (node, rest) ← readDocument (4 * ts.length + 4) ts
  if rest.all (· == .documentEnd) then return node else none

end LineShell.Yaml
