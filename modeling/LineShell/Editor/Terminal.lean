import LineShell.Console.Basic
import LineShell.Editor.Basic

/-!
# Editing on a console

A terminal is a console that shows the line being edited. Every operation changes the line and
redraws the part of the row that changed, by moves of the caret relative to where it stands. It
finds the caret of the console at the caret of the line and leaves it there.

The console may refuse at any point. What was changed in the line before that stays changed.
-/

namespace LineShell

/-- A console and the line that is edited on it. -/
structure Terminal where
  console : Console := {}
  editor : Editor := {}
  deriving DecidableEq, Repr

namespace Terminal

/-- An operation of the console. -/
def onConsole {α : Type} (a : Attempt Console α) : Attempt Terminal α :=
  Attempt.within Terminal.console (fun c t => { t with console := c }) a

/-- Puts something out on the console. -/
def output (o : Output) : Attempt Terminal Unit :=
  onConsole (Console.output o)

/-- Changes the line without showing it. -/
def modifyEditor (f : Editor → Editor) : Attempt Terminal Unit :=
  modify fun t => { t with editor := f t.editor }

/-! ### Moving the caret -/

/-- Moves the caret to a position in the line, or to its end if the position lies beyond. -/
def setCaret (position : Nat) : Attempt Terminal Unit := do
  let e := (← get).editor
  let target := min position e.buffer.length
  if target ≠ e.caret then
    output (.move ((target : Int) - e.caret))
  modifyEditor fun e => { e with caret := target }

/-- Moves the caret one character to the left. -/
def moveLeft : Attempt Terminal Unit := do
  setCaret ((← get).editor.caret - 1)

/-- Moves the caret one character to the right. -/
def moveRight : Attempt Terminal Unit := do
  setCaret ((← get).editor.caret + 1)

/-- Moves the caret to the start of the line. -/
def moveToStart : Attempt Terminal Unit :=
  setCaret 0

/-- Moves the caret to the end of the line. -/
def moveToEnd : Attempt Terminal Unit := do
  setCaret (← get).editor.buffer.length

/-- Moves the caret to where the run of characters before it begins. -/
def moveWordBack : Attempt Terminal Unit := do
  setCaret (← get).editor.previousBoundary

/-- Moves the caret to where the run of characters from it on ends. -/
def moveWordForward : Attempt Terminal Unit := do
  setCaret (← get).editor.nextBoundary

/-! ### Changing the line -/

/-- Writes the rest of the line again, with a blank over the character that went, and brings the
caret back. -/
def redrawTail : Attempt Terminal Unit := do
  let tail := (← get).editor.tail ++ [' ']
  output (.text (.ofList tail))
  output (.move (-tail.length))

/-- Removes the character before the caret. -/
def removePrevious : Attempt Terminal Unit := do
  let e := (← get).editor
  if e.caret ≠ 0 then
    modifyEditor fun e => { e with caret := e.caret - 1, buffer := e.buffer.eraseIdx (e.caret - 1) }
    output (.move (-1))
    redrawTail

/-- Removes the character under the caret. -/
def removeCurrent : Attempt Terminal Unit := do
  let e := (← get).editor
  if e.caret < e.buffer.length then
    modifyEditor fun e => { e with buffer := e.buffer.eraseIdx e.caret }
    redrawTail

/-- Types characters at the caret: in overwrite mode they replace the ones under it. -/
def insert (typed : List Char) : Attempt Terminal Unit := do
  if typed.isEmpty then return
  let e := (← get).editor
  let before := e.buffer.take e.caret
  if e.overwrite then
    modifyEditor fun e => { e with buffer := before ++ typed ++ e.tail.drop typed.length }
    output (.text (.ofList typed))
    modifyEditor fun e => { e with caret := e.caret + typed.length }
  else
    modifyEditor fun e =>
      { e with buffer := before ++ typed ++ e.tail, caret := e.caret + typed.length }
    output (.text (.ofList typed))
    if !e.tail.isEmpty then
      output (.text (.ofList e.tail))
      output (.move (-e.tail.length))

/-- The number of characters that two lists have in common at their beginning. -/
def commonLength : List Char → List Char → Nat
  | x :: xs, y :: ys => if x = y then commonLength xs ys + 1 else 0
  | _, _ => 0

/-- Replaces the whole line and puts the caret at its end. Only what differs from the line before
is written, blanks over what is left of it included, and the caret is hidden meanwhile. -/
def setInput (text : String) : Attempt Terminal Unit := do
  let old := (← get).editor.buffer
  let new := text.toList
  let common := commonLength old new
  let stale := old.length - new.length
  output (.caretShown false)
  setCaret common
  if common < new.length then
    output (.text (.ofList (new.drop common)))
  if stale > 0 then
    output (.text (.ofList (List.replicate stale ' ')))
    output (.move (-stale))
  modifyEditor fun e => { e with buffer := new, caret := new.length }
  output (.caretShown true)

/-- Forgets the line and leaves the console alone. -/
def resetInput : Attempt Terminal Unit :=
  modifyEditor fun e => { e with buffer := [], caret := 0 }

/-- Switches between inserting and overwriting. -/
def toggleOverwrite : Attempt Terminal Unit :=
  modifyEditor fun e => { e with overwrite := !e.overwrite }

end Terminal

end LineShell
