import LineShell.Yaml.Meaning
import LineShell.Yaml.Scalar

/-!
# Written texts

A text is written in the plainest style in which it can be read back: as it is, between single
quotes, or between double quotes with escapes. A text of several lines is written as a block scalar
that keeps its breaks. No line is broken for its length.
-/

namespace LineShell.Yaml

/-- How a text is written. -/
inductive Style
  | plain
  | singleQuoted
  | doubleQuoted
  | literal
  deriving DecidableEq, Repr

/-! ### The choice of a style -/

/-- Whether a character is written without an escape. -/
def isPrintable (c : Char) : Bool :=
  let n := c.toNat
  n == 10 || (0x20 ≤ n && n ≤ 0x7E) || (0xA0 ≤ n && n ≤ 0xFFFD && n != 0xFEFF) || 0x10000 ≤ n

/-- Whether two neighbours among some characters have a property each. -/
def hasPair (f g : Char → Bool) : List Char → Bool
  | c :: d :: cs => (f c && g d) || hasPair f g (d :: cs)
  | _ => false

/-- Whether blanks stand before a break. -/
def hasSpaceBreak (cs : List Char) : Bool :=
  hasPair (· == ' ') isBreak cs

/-- Whether blanks stand after a break. -/
def hasBreakSpace (cs : List Char) : Bool :=
  hasPair isBreak (· == ' ') cs

/-- Whether the rest of a plain scalar after a character would be taken for something else: a colon
ends a key where a word ends, and a number sign begins a comment where one begins. -/
def endsEarly (previous : Char) : List Char → Bool
  | [] => false
  | c :: cs =>
    (c == ':' && cs.head?.all isGap) || (c == '#' && isGap previous) || endsEarly c cs

/-- Whether a plain scalar would be taken for something else. -/
def isMistaken : List Char → Bool
  | [] => false
  | '-' :: '-' :: '-' :: _ => true
  | '.' :: '.' :: '.' :: _ => true
  | c :: cs =>
    (if c = '-' ∨ c = '?' ∨ c = ':' then cs.head?.all isGap else isIndicator c) || endsEarly c cs

/-- Whether a text can be written as it is. -/
def allowsPlain (cs : List Char) : Bool :=
  cs.all isPrintable && !cs.any isBreak && !isMistaken cs && cs.head? != some ' ' &&
    cs.getLast? != some ' '

/-- Whether a text can be written between single quotes. -/
def allowsSingle (cs : List Char) : Bool :=
  cs.all isPrintable && !hasSpaceBreak cs && !hasBreakSpace cs

/-- Whether a text can be written as a block scalar. -/
def allowsLiteral (cs : List Char) : Bool :=
  cs.all isPrintable && !hasSpaceBreak cs && cs.getLast? != some ' '

/-- The style in which a text is written. -/
def styleOf (text : String) : Style :=
  let cs := text.toList
  if cs.contains '\n' then
    if allowsLiteral cs then .literal else .doubleQuoted
  else if !isAmbiguous text && allowsPlain cs then .plain
  else if allowsSingle cs then .singleQuoted
  else .doubleQuoted

example : styleOf "a:b" = .plain := by decide

example : styleOf "a: b" = .singleQuoted := by decide

example : styleOf "true" = .singleQuoted := by decide

/-! ### The styles -/

/-- A number in hexadecimal with so many digits. -/
def hex (digits n : Nat) : List Char :=
  let ds := (Nat.toDigits 16 n).map Char.toUpper
  List.replicate (digits - ds.length) '0' ++ ds

/-- The letter of the escape for a character, of those that are escaped by letter. -/
def escapeLetter? (c : Char) : Option Char :=
  (escapes.find? fun (letter, value) =>
    value == c && letter != ' ' && letter != '/' && letter != '\t').map (·.1)

/-- The escape for a character. -/
def escape (c : Char) : List Char :=
  '\\' :: match escapeLetter? c with
    | some letter => [letter]
    | none =>
      if c.toNat ≤ 0xFF then 'x' :: hex 2 c.toNat
      else if c.toNat ≤ 0xFFFF then 'u' :: hex 4 c.toNat
      else 'U' :: hex 8 c.toNat

/-- The text between double quotes. -/
def doubleQuoted (cs : List Char) : List Char :=
  '"' :: cs.flatMap (fun c =>
    if isPrintable c && !isBreak c && c != '"' && c != '\\' then [c] else escape c) ++ ['"']

/-- The characters with an indentation before each line that is not empty, the first line being
such a line or not. -/
def indented (indent : Nat) : Bool → List Char → List Char
  | _, [] => []
  | fresh, c :: cs =>
    if isBreak c then c :: indented indent true cs
    else (if fresh then List.replicate indent ' ' else []) ++ c :: indented indent false cs

/-- The text between single quotes. -/
def singleQuoted (indent : Nat) (cs : List Char) : List Char :=
  let doubled := cs.flatMap fun c => if c = '\x27' then [c, c] else [c]
  let margin := if cs.getLast?.any isBreak then List.replicate indent ' ' else []
  '\x27' :: indented indent false doubled ++ margin ++ ['\x27']

/-- What stands before the first line of a block scalar: its indicator, its indentation if its first
line does not show it, and what becomes of the breaks at its end. -/
def literalHeader (cs : List Char) : List Char :=
  let shown := !cs.head?.any fun c => c == ' ' || isBreak c
  let sign := match cs.reverse with
    | [] => ['-']
    | [c] => if isBreak c then ['+'] else ['-']
    | c :: d :: _ => if !isBreak c then ['-'] else if isBreak d then ['+'] else []
  '|' :: (if shown then [] else ['2']) ++ sign

/-- The text as a block scalar, to the end of its last line. -/
def literal (indent : Nat) (cs : List Char) : List Char :=
  literalHeader cs ++ '\n' :: indented indent true cs ++
    if cs.getLast?.any isBreak then [] else ['\n']

/-- A text as the value of a key, to the end of its last line, with the given indentation for
further lines. -/
def written (indent : Nat) (text : String) : String :=
  let cs := text.toList
  .ofList (match styleOf text with
    | .plain => cs ++ ['\n']
    | .singleQuoted => singleQuoted indent cs ++ ['\n']
    | .doubleQuoted => doubleQuoted cs ++ ['\n']
    | .literal => literal indent cs)

example : written 2 "it's" = "it's\n" := by decide

example : written 2 "one\ntwo\n" = "|\n  one\n  two\n" := by decide

end LineShell.Yaml
