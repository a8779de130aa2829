import LineShell.Config.Basic
import LineShell.Yaml.Document
import LineShell.Yaml.Written

/-!
# Stored settings

A configuration file is a mapping from names of settings to their values. Settings that it does not
name have their default; names that are not known are passed over; a setting may be named once.
What `Config.text` writes, `Config.ofText?` reads.
-/

namespace LineShell

namespace Yaml

namespace Node

/-- The text of a scalar. -/
def text? : Node → Option String
  | .scalar _ _ _ text => some text
  | _ => none

/-- The entries of a mapping in a document, whose keys are texts. Where nothing is written there are
none. -/
def entries? (node whole : Node) : Option (List (String × Node)) :=
  match node with
  | .scalar _ _ .plain "" => some []
  | .mapping _ entries => entries.mapM fun (key, value) =>
    (key.resolve whole).text?.map (·, value)
  | _ => none

/-- The text of a scalar that is not quoted. A text by lines is one only if its tag says what is
looked for. -/
def bare? (expected : String) : Node → Option String
  | .scalar _ _ .plain text => some text
  | .scalar _ tag .literal text => if tag = some expected then some text else none
  | _ => none

/-- The path that a scalar gives, if any. A plain scalar with a tag is a path even if it looks like
nothing, unless the tag says that it is nothing; then it has to look so. -/
def path? : Node → Option (Option String)
  | .scalar _ tag .plain text => match tag with
    | none => some (if isNull text then none else some text)
    | some tag =>
      if tag ≠ nullTag then some (some text)
      else if text ≠ "" ∧ isNull text then some none
      else none
  | .scalar _ _ _ text => some (some text)
  | _ => none

/-- The truth value that a scalar gives. -/
def truth? (node : Node) : Option Bool :=
  (node.bare? truthTag).bind Yaml.truth?

/-- The count that a scalar gives. -/
def count? (node : Node) : Option Nat :=
  (node.bare? countTag).bind Yaml.count?

end Node

/-- The value of a setting, or its default where it is not named. -/
def setting {α : Type} (whole : Node) (entries : List (String × Node)) (name : String)
    (read : Node → Option α) (default : α) : Option α :=
  match entries.filter (·.1 == name) with
  | [] => some default
  | [(_, node)] => read (node.resolve whole)
  | _ => none

end Yaml

open Yaml

/-! ### Reading -/

/-- The settings of the history that a node in a document gives. -/
def HistoryConfig.ofNode? (whole node : Node) : Option HistoryConfig := do
  let entries ← node.entries? whole
  let usual : HistoryConfig := {}
  return {
    maxEntries := ← setting whole entries "max_entries" Node.count? usual.maxEntries
    file := ← setting whole entries "file" Node.path? usual.file }

namespace Config

/-- The settings that a document gives. -/
def ofNode? (whole : Node) : Option Config := do
  let entries ← whole.entries? whole
  let usual : Config := {}
  return {
    prompt := ← setting whole entries "prompt" Node.text? usual.prompt
    rawMode := ← setting whole entries "raw_mode" Node.truth? usual.rawMode
    unicodeWords := ← setting whole entries "unicode_word_boundaries" Node.truth? usual.unicodeWords
    history := ← setting whole entries "history" (HistoryConfig.ofNode? whole) usual.history
    logFile := ← setting whole entries "log_file" Node.path? usual.logFile }

/-- The settings that a text gives. -/
def ofText? (text : String) : Option Config :=
  (document? text).bind ofNode?

/-- The settings in a file. A file that can be opened but is no text, or not this kind of text, is
malformed. -/
def load (file : File) : Except Failure Config :=
  match file.read with
  | .ok text => match ofText? text with
    | some config => .ok config
    | none => .error (.malformed "not the settings of a shell")
  | .error .notText => .error (.malformed SystemError.notText.message)
  | .error .isDirectory => .error (.malformed SystemError.isDirectory.message)
  | .error e => .error (.system e)

/-! ### Writing -/

/-- An optional path as the value of a key, to the end of its last line. -/
def writtenPath (indent : Nat) : Option String → String
  | none => "null\n"
  | some path => written indent path

/-- The settings as the text of a file. -/
def text (c : Config) : String :=
  "prompt: " ++ written 2 c.prompt ++
  "raw_mode: " ++ toString c.rawMode ++ "\n" ++
  "unicode_word_boundaries: " ++ toString c.unicodeWords ++ "\n" ++
  "history:\n" ++
  "  max_entries: " ++ toString c.history.maxEntries ++ "\n" ++
  "  file: " ++ writtenPath 4 c.history.file ++
  "log_file: " ++ writtenPath 2 c.logFile

/-- Writes the settings to a file. -/
def save (c : Config) : Attempt File Unit := fun file =>
  match file.write (.replace c.text) with
  | (.ok (), file) => .ok () file
  | (.error e, file) => .error (.system e) file

end Config

end LineShell
