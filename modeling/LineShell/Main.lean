import LineShell.Batch.Basic

/-!
# The program

Reads what `Batch` needs to know of files and standard input, and carries out what it decides.
-/

namespace LineShell

/-- What a path leads to. -/
def stateOf (path : String) : IO FileState := do
  try
    let bytes ← IO.FS.readBinFile path
    return match String.fromUTF8? bytes with
      | some text => .text text
      | none => .binary
  catch
    | .noFileOrDirectory .. => return .absent
    | .inappropriateType _ 20 _ => return .unreachable .notDirectory
    | .invalidArgument _ 36 _ => return .unreachable .nameTooLong
    | _ => return .directory

/-- Opens the file for diagnostic messages, and makes the directory for it if that is missing. -/
def openLog (path : String) : IO Unit := do
  let start := if Path.isAbsolute path then "/" else "./"
  let directory := start ++ "/".intercalate (Path.names path).dropLast
  IO.FS.createDirAll directory
  IO.FS.withFile (directory ++ "/" ++ (Path.fileName? path).getD "") .append fun _ => return

/-- Writes the history. It is not kept if its file cannot be written. -/
def keepHistory (path content : String) : IO Unit := do
  try IO.FS.writeFile path content catch _ => return

/-- Says how a run ended. -/
def conclude (o : Outcome) : IO UInt32 := do
  IO.print o.out
  IO.eprint o.err
  return o.code.toUInt32

/-- Runs a shell as asked. -/
def runShell (i : Invocation) : IO UInt32 := do
  let configState ← match i.config with
    | some path => stateOf path
    | none => pure .absent
  match Batch.config i fun _ => configState with
  | .error reason => conclude (Batch.failed reason)
  | .ok c =>
    if let some path := c.logFile then openLog path
    let input ← (← IO.getStdin).readBinToEnd
    let historyState ← match c.history.file with
      | some path => stateOf path
      | none => pure .absent
    let (outcome, history) := Batch.runShell c (fun _ => historyState) (String.fromUTF8? input)
    match c.history.file, history with
    | some path, some (.text content) => keepHistory path content
    | _, _ => pure ()
    conclude outcome

end LineShell

open LineShell in
/-- Runs the program with the words after its name. -/
def main (words : List String) : IO UInt32 :=
  match Batch.invocation (Request.ofWords words) with
  | .error outcome => conclude outcome
  | .ok i => runShell i
