/-!
# The lines of a text

A line ends at a line feed, with a carriage return before it or not. What comes after the last line
feed is a line if there is anything.
-/

namespace LineShell.Text

/-- The lines of some characters, without their ends. -/
def linesOf : List Char → List (List Char)
  | [] => []
  | '\n' :: cs => [] :: linesOf cs
  | '\r' :: '\n' :: cs => [] :: linesOf cs
  | c :: cs =>
    match linesOf cs with
    | [] => [[c]]
    | line :: lines => (c :: line) :: lines

/-- The lines of a text, without their ends. -/
def lines (text : String) : List String :=
  (linesOf text.toList).map .ofList

/-- The text of which some lines are the lines. -/
def unlines (lines : List String) : String :=
  String.join (lines.map (· ++ "\n"))

end LineShell.Text
