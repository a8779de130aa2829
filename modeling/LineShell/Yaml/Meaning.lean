import LineShell.Count

/-!
# What plain scalars stand for

Without quotes some texts stand for nothing, a truth value or a number. `isAmbiguous` says which
texts a writer has to quote for them to stay texts.
-/

namespace LineShell.Yaml

/-- Whether a plain scalar stands for nothing. -/
def isNull (text : String) : Bool :=
  ["", "null", "Null", "NULL", "~"].contains text

/-- The truth value that a plain scalar stands for. -/
def truth? (text : String) : Option Bool :=
  if ["true", "True", "TRUE"].contains text then some true
  else if ["false", "False", "FALSE"].contains text then some false
  else none

/-! ### Whole numbers -/

/-- The value of a digit, letters being digits above nine. -/
def digit? (base : Nat) (c : Char) : Option Nat :=
  let value :=
    if '0' ≤ c ∧ c ≤ '9' then c.toNat - '0'.toNat
    else if 'a' ≤ c ∧ c ≤ 'z' then c.toNat - 'a'.toNat + 10
    else if 'A' ≤ c ∧ c ≤ 'Z' then c.toNat - 'A'.toNat + 10
    else base
  if value < base then some value else none

/-- The number with some digits, at least one. -/
def ofDigits? (base : Nat) : List Char → Option Nat
  | [] => none
  | cs => cs.foldlM (fun n c => (digit? base c).map (base * n + ·)) 0

/-- Whether all characters are decimal digits, and needless zeros come first. -/
def hasLeadingZero : List Char → Bool
  | '0' :: c :: cs => (c :: cs).all Char.isDigit
  | _ => false

/-- The number without a sign, in the base that its first two characters announce. -/
def magnitude? : List Char → Option Nat
  | '0' :: 'x' :: cs => ofDigits? 16 cs
  | '0' :: 'o' :: cs => ofDigits? 8 cs
  | '0' :: 'b' :: cs => ofDigits? 2 cs
  | cs => if hasLeadingZero cs then none else ofDigits? 10 cs

/-- The characters without a plus sign before them. -/
def withoutPlus : List Char → List Char
  | '+' :: cs => cs
  | cs => cs

/-- The count that a plain scalar stands for. -/
def count? (text : String) : Option Nat :=
  (magnitude? (withoutPlus text.toList)).filter (· ≤ maxCount)

example : count? "0x1F" = some 31 := by decide

example : count? "007" = none := by decide

/-! ### Numbers in general -/

/-- The characters without a sign before them, and whether it was a minus. -/
def withoutSign : List Char → Bool × List Char
  | '-' :: cs => (true, cs)
  | cs => (false, withoutPlus cs)

/-- Whether the characters are a whole number of at most 128 bits, with a sign or without. -/
def isWhole (cs : List Char) : Bool :=
  let (negative, cs) := withoutSign cs
  (magnitude? cs).any (· ≤ if negative then Nat.pow 2 127 else Nat.pow 2 128 - 1)

/-- A number in decimal notation: digits, the last ones after the point, and a power of ten. -/
structure Decimal where
  digits : List Char
  exponent : Int
  deriving DecidableEq, Repr

/-- The power of ten after the digits. -/
def exponent? : List Char → Option Int
  | [] => some 0
  | c :: cs =>
    if c = 'e' ∨ c = 'E' then
      let (negative, cs) := withoutSign cs
      (ofDigits? 10 cs).map fun n => if negative then -n else n
    else none

/-- The number without a sign, as decimal notation: a point may stand anywhere among the digits. -/
def Decimal.ofChars? (cs : List Char) : Option Decimal :=
  let (whole, rest) := cs.span Char.isDigit
  let (fraction, rest) := match rest with
    | '.' :: rest => rest.span Char.isDigit
    | rest => ([], rest)
  if whole.isEmpty && fraction.isEmpty then none
  else (exponent? rest).map fun e => ⟨whole ++ fraction, e - fraction.length⟩

/-- Whether a number is less than all that round to infinity in double precision. Only numbers with
309 digits before the point need to be compared. -/
def Decimal.isFinite (d : Decimal) : Bool :=
  let digits := d.digits.dropWhile (· == '0')
  let size := digits.length + d.exponent
  let value := (ofDigits? 10 digits).getD 0
  let limit := Nat.pow 2 1024 - Nat.pow 2 970
  digits.isEmpty || size < 309 ||
    (size == 309 &&
      value * Nat.pow 10 d.exponent.toNat < limit * Nat.pow 10 (-d.exponent).toNat)

/-- Whether a text is a number in decimal notation, infinite, or not a number. -/
def isDecimal (text : String) : Bool :=
  [".inf", ".Inf", ".INF", "+.inf", "+.Inf", "+.INF", "-.inf", "-.Inf", "-.INF", ".nan", ".NaN",
    ".NAN"].contains text ||
  (Decimal.ofChars? (withoutSign text.toList).2).any Decimal.isFinite

/-! ### Texts that need quotes -/

/-- Whether a text would be taken for something other than a text. -/
def isAmbiguous (text : String) : Bool :=
  isNull text || (truth? text).isSome || isWhole text.toList || isDecimal text ||
    hasLeadingZero (withoutSign text.toList).2

end LineShell.Yaml
