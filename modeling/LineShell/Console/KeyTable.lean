import LineShell.Console.Key

/-!
# What keys do

A key may be bound to an edit action or to a handler of the application. A table starts with the
actions that every line editor has on the arrow keys, the delete keys and so on. While the terminal
is in raw mode a few more chords work, which are in no table and give way to any binding.
-/

namespace LineShell

/-- What the line editor itself can do on a key. -/
inductive EditAction
  /-- Moves the caret one character to the left. -/
  | moveLeft
  /-- Moves the caret one character to the right. -/
  | moveRight
  /-- Moves the caret to the start of the line. -/
  | moveToStart
  /-- Moves the caret to the end of the line. -/
  | moveToEnd
  /-- Moves the caret to the start of the word before it. -/
  | moveWordBack
  /-- Moves the caret past the word after it. -/
  | moveWordForward
  /-- Replaces the line by the one before it in the history. -/
  | previousHistory
  /-- Replaces the line by the one after it in the history, or by nothing. -/
  | nextHistory
  /-- Puts the next candidate for completion in. -/
  | nextSuggestion
  /-- Puts the previous candidate for completion in. -/
  | previousSuggestion
  /-- Empties the line. -/
  | clearLine
  /-- Removes the character before the caret. -/
  | removePrevious
  /-- Removes the character under the caret. -/
  | removeCurrent
  /-- Switches between inserting and overwriting. -/
  | toggleOverwrite
  /-- Submits the line. -/
  | execute
  /-- Gives the line up. -/
  | breakLine
  deriving DecidableEq, Repr

/-- What a key does, with the handlers of an application. -/
inductive KeyBinding (Handler : Type)
  | action (action : EditAction)
  | handler (handler : Handler)

/-- What the keys do. A key is in the table at most once. -/
abbrev KeyTable (Handler : Type) := List (Key × KeyBinding Handler)

namespace KeyTable

variable {Handler : Type}

/-- What a key does, if it is bound. -/
def find? (table : KeyTable Handler) (key : Key) : Option (KeyBinding Handler) :=
  table.lookup key

/-- The table without a key. -/
def unbind (table : KeyTable Handler) (key : Key) : KeyTable Handler :=
  table.filter (·.1 != key)

/-- The table with a key bound, whatever it was bound to before. -/
def bind (table : KeyTable Handler) (key : Key) (binding : KeyBinding Handler) :
    KeyTable Handler :=
  (key, binding) :: table.unbind key

/-- The keys and actions of a fresh table. -/
def standardActions : List (Key × EditAction) :=
  [({ code := .left }, .moveLeft), ({ code := .right }, .moveRight),
   ({ code := .home }, .moveToStart), ({ code := .end }, .moveToEnd),
   ({ code := .up }, .previousHistory), ({ code := .down }, .nextHistory),
   ({ code := .tab }, .nextSuggestion), ({ code := .backTab }, .previousSuggestion),
   (.shift .backTab, .previousSuggestion), (.shift .tab, .previousSuggestion),
   ({ code := .escape }, .clearLine), ({ code := .backspace }, .removePrevious),
   ({ code := .delete }, .removeCurrent), ({ code := .insert }, .toggleOverwrite),
   ({ code := .enter }, .execute), (.ctrl (.char 'c'), .breakLine)]

/-- A fresh table. -/
def standard : KeyTable Handler :=
  standardActions.map fun (key, action) => (key, .action action)

end KeyTable

/-- The chords that work in raw mode only, with just the one modifier held. -/
def rawModeChord? (key : Key) : Option EditAction :=
  if key = .ctrl (.char 'a') then some .moveToStart
  else if key = .ctrl (.char 'e') then some .moveToEnd
  else if key = .ctrl .left ∨ key = .alt (.char 'b') then some .moveWordBack
  else if key = .ctrl .right ∨ key = .alt (.char 'f') then some .moveWordForward
  else none

end LineShell
