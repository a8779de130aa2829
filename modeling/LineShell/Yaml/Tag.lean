import LineShell.Yaml.Place

/-!
# Tags and directives

A tag says of a node what it is. It is written in full between angle brackets, or as a handle, which
stands for the first part of the tag, and the rest. The lines before a document that begin with a
percent sign say which version of the notation it follows and what its handles stand for.

`Handles.all` decides what a handle stands for: what is said before the document counts more than
what is usual.
-/

namespace LineShell.Yaml

/-- The tag of what stands for nothing. -/
def nullTag : String := "tag:yaml.org,2002:null"

/-- The tag of truth values. -/
def truthTag : String := "tag:yaml.org,2002:bool"

/-- The tag of whole numbers. -/
def countTag : String := "tag:yaml.org,2002:int"

/-- Handles and what they stand for. -/
abbrev Handles := List (String × String)

/-- Some handles and the usual ones. -/
def Handles.all (handles : Handles) : Handles :=
  handles ++ [("!", "!"), ("!!", "tag:yaml.org,2002:")]

/-! ### The characters of a tag -/

/-- Whether a character may stand in a tag as it is. Within angle brackets, and in what a handle
stands for, three indicators of flow collections may stand too. -/
def isTagChar (full : Bool) (c : Char) : Bool :=
  isNameChar c || ";/?:@&=+$.!~*\x27()".toList.contains c || (full && ",[]".toList.contains c)

/-- How many octets are still due in the encoding of a character after one more octet. -/
def due? (due octet : Nat) : Option Nat :=
  if due = 0 then
    if octet < 0x80 then some 0
    else if octet < 0xC0 then none
    else if octet < 0xE0 then some 1
    else if octet < 0xF0 then some 2
    else if octet < 0xF8 then some 3
    else none
  else if 0x80 ≤ octet ∧ octet < 0xC0 then some (due - 1)
  else none

/-- Reads on in a tag, where so many octets of a character are due. An octet is written as a percent
sign and two digits. -/
def tagFrom (full : Bool) (read : List Char) (due : Nat) :
    List Placed → Option (List Char × List Placed)
  | [] => if due = 0 then some (read.reverse, []) else none
  | p :: ps =>
    if p.char = '%' then
      match ps with
      | q :: r :: rest =>
        match hexDigit? q.char, hexDigit? r.char with
        | some high, some low =>
          let octet := 16 * high + low
          match due? due octet with
          | some due => tagFrom full (.ofNat octet :: read) due rest
          | none => none
        | _, _ => none
      | _ => none
    else if due ≠ 0 then none
    else if isTagChar full p.char then tagFrom full (p.char :: read) due ps
    else some (read.reverse, p :: ps)

/-- Reads a part of a tag, which may not be empty. It counts up to the first NUL. -/
def tagPart (full : Bool) (ps : List Placed) : Option (String × List Placed) := do
  let (cs, rest) ← tagFrom full [] 0 ps
  if cs.isEmpty then none else return (.ofList (cs.takeWhile (· != '\x00')), rest)

/-! ### Tags -/

/-- Reads a tag in full after the opening bracket. -/
def fullTag (ps : List Placed) : Option (String × List Placed) := do
  match ← tagPart true ps with
  | (tag, p :: rest) => if p.char = '>' then return (tag, rest) else none
  | _ => none

/-- Reads a tag that begins with a handle, after the first exclamation mark. The mark alone is a tag
of its own. -/
def shortTag (handles : Handles) (ps : List Placed) : Option (String × List Placed) :=
  let (name, rest) := nameOf ps
  if rest.head?.any fun p => p.char == '!' then do
    let (tail, rest) ← tagPart false (rest.drop 1)
    let head ← handles.all.lookup ("!" ++ name ++ "!")
    return (head ++ tail, rest)
  else do
    let (cs, rest) ← tagFrom false [] 0 rest
    let tail := name ++ .ofList (cs.takeWhile (· != '\x00'))
    let head ← handles.all.lookup "!"
    return (if tail.isEmpty then "!" else head ++ tail, rest)

/-- Reads a tag after the first exclamation mark. A word ends after it, or an entry of a flow
collection. -/
def readTag (flow : Bool) (handles : Handles) (ps : List Placed) :
    Option (String × List Placed) := do
  let (tag, rest) ←
    if ps.head?.any fun p => p.char == '<' then fullTag (ps.drop 1) else shortTag handles ps
  if atGap rest || (flow && rest.head?.any fun p => p.char == ',') then return (tag, rest)
  else none

/-! ### Directives -/

/-- What a directive says. -/
inductive Directive
  /-- The version of the notation, as two numbers. -/
  | version (major minor : Nat)
  /-- What a handle of tags stands for. -/
  | handle (name meaning : String)
  deriving DecidableEq, Repr

/-- Reads a number of at most nine digits. -/
def versionPart (ps : List Placed) : Option (Nat × List Placed) :=
  let (digits, rest) := ps.span fun p => p.char.isDigit
  if digits.isEmpty || digits.length > 9 then none
  else some (digits.foldl (fun n p => 10 * n + (p.char.toNat - '0'.toNat)) 0, rest)

/-- Reads a version. -/
def versionDirective (ps : List Placed) : Option (Directive × List Placed) := do
  match ← versionPart ps with
  | (major, p :: rest) =>
    if p.char = '.' then
      let (minor, rest) ← versionPart rest
      return (.version major minor, rest)
    else none
  | _ => none

/-- Reads a handle and what it stands for. -/
def handleDirective : List Placed → Option (Directive × List Placed)
  | [] => none
  | p :: ps =>
    let (name, rest) := nameOf ps
    let closed := rest.head?.any fun p => p.char == '!'
    let rest := if closed then rest.drop 1 else rest
    if p.char = '!' ∧ (closed ∨ name = "") ∧ rest.head?.any (isSpace ·.char) then do
      let (meaning, rest) ← tagPart true (dropSpaces rest)
      if atGap rest then return (.handle (if closed then "!" ++ name ++ "!" else "!") meaning, rest)
      else none
    else none

/-- Reads a directive after the percent sign, and its line to the end. -/
def readDirective (ps : List Placed) : Option (Directive × List Placed) := do
  let (name, rest) := nameOf ps
  if !atGap rest then none
  let (directive, rest) ←
    if name = "YAML" then versionDirective (dropSpaces rest)
    else if name = "TAG" then handleDirective (dropSpaces rest)
    else none
  let rest := dropComment rest
  if atBreak rest then return (directive, rest.drop 1) else none

end LineShell.Yaml
