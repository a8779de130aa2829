import LineShell.Text.Upper

/-!
# Keys

A key press is a key with the modifiers held down. It types a character if the key carries one and
neither control nor alt is held.
-/

namespace LineShell

/-- The keys of a keyboard. -/
inductive KeyCode
  | left
  | right
  | home
  | «end»
  | up
  | down
  | tab
  | backTab
  | escape
  | backspace
  | delete
  | insert
  | enter
  | pageUp
  | pageDown
  | null
  | function (number : Nat)
  | char (c : Char)
  deriving DecidableEq, Repr

/-- The modifiers held down with a key. -/
structure Modifiers where
  ctrl : Bool := false
  alt : Bool := false
  shift : Bool := false
  super : Bool := false
  deriving DecidableEq, Repr

/-- A key press. -/
structure Key where
  code : KeyCode
  modifiers : Modifiers := {}
  deriving DecidableEq, Repr

namespace Key

/-- A key pressed with control. -/
def ctrl (code : KeyCode) : Key :=
  { code, modifiers := { ctrl := true } }

/-- A key pressed with alt. -/
def alt (code : KeyCode) : Key :=
  { code, modifiers := { alt := true } }

/-- A key pressed with shift. -/
def shift (code : KeyCode) : Key :=
  { code, modifiers := { shift := true } }

/-- The key press that types a character: upper case letters need shift. -/
def ofChar (c : Char) : Key :=
  { code := .char c, modifiers := { shift := Text.isUppercase c } }

/-- The character that a key press types. -/
def character? (key : Key) : Option Char :=
  match key.code with
  | .char c => if key.modifiers.ctrl || key.modifiers.alt then none else some c
  | _ => none

@[simp] theorem character?_ofChar (c : Char) : (ofChar c).character? = some c := rfl

end Key

end LineShell
