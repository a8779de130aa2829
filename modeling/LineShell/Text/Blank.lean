/-!
# Blanks

The characters that separate words: the property White_Space of Unicode, which has more members
than the four blanks that `Char.isWhitespace` knows.
-/

namespace LineShell.Text

/-- Whether the character has the property White_Space. -/
def isBlank (c : Char) : Bool :=
  let n := c.toNat
  (9 ≤ n && n ≤ 13) || n == 0x20 || n == 0x85 || n == 0xA0 || n == 0x1680 ||
    (0x2000 ≤ n && n ≤ 0x200A) || n == 0x2028 || n == 0x2029 || n == 0x202F || n == 0x205F ||
    n == 0x3000

@[simp] theorem isBlank_quote : isBlank '"' = false := by decide

@[simp] theorem isBlank_backslash : isBlank '\\' = false := by decide

/-- Whether a text holds nothing but blanks. -/
def allBlank (text : String) : Bool :=
  text.toList.all isBlank

/-- The text without the blanks at its end. -/
def trimEnd (text : String) : String :=
  .ofList (text.toList.reverse.dropWhile isBlank).reverse

/-- The text without the blanks at either end. -/
def trim (text : String) : String :=
  trimEnd (.ofList (text.toList.dropWhile isBlank))

end LineShell.Text
