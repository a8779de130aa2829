import LineShell.Failure

/-!
# Files

What is found under the name of a file, and what reading and writing do there. A write either goes
through whole or changes nothing. It is refused where there is no place for a file, and whenever
the schedule of refusals says so.
-/

namespace LineShell

/-- What is found under the name of a file. -/
inductive FileState
  /-- Nothing, and no place for a file either. -/
  | unreachable (reason : SystemError)
  /-- Nothing, in a directory. -/
  | absent
  /-- A directory. -/
  | directory
  /-- A device that takes everything and holds nothing. -/
  | sink
  /-- A file with a text. -/
  | text (content : String)
  /-- A file whose bytes are not the encoding of a text. -/
  | binary
  deriving DecidableEq, Repr

/-- What a write does to the text of a file. -/
inductive FileWrite
  /-- Adds text at the end. -/
  | append (more : String)
  /-- Puts a new text in the place of the old one. -/
  | replace (content : String)
  deriving DecidableEq, Repr

/-- The state after a write. To append to an absent file is to make it. -/
def FileState.write (s : FileState) (w : FileWrite) : Except SystemError FileState :=
  match s, w with
  | .unreachable reason, _ => .error reason
  | .directory, _ => .error .isDirectory
  | .sink, _ => .ok .sink
  | _, .replace content => .ok (.text content)
  | .absent, .append more => .ok (.text more)
  | .text content, .append more => .ok (.text (content ++ more))
  | .binary, .append _ => .ok .binary

/-- The place of a file. -/
structure File where
  state : FileState
  /-- Which of the writes to come are refused. -/
  refusals : Refusals := []
  deriving DecidableEq, Repr

namespace File

/-- The text of the file. -/
def read (f : File) : Except SystemError String :=
  match f.state with
  | .unreachable reason => .error reason
  | .absent => .error .notFound
  | .directory => .error .isDirectory
  | .sink => .ok ""
  | .binary => .error .notText
  | .text content => .ok content

/-- The text of the file, if there is one. -/
def text? (f : File) : Option String :=
  f.read.toOption

/-- Writes to the file, unless the write is refused. -/
def write (f : File) (w : FileWrite) : Except SystemError Unit × File :=
  match f.refusals.next with
  | (true, rest) => (.error (.device "write refused"), { f with refusals := rest })
  | (false, rest) =>
    match f.state.write w with
    | .ok state => (.ok (), ⟨state, rest⟩)
    | .error e => (.error e, { f with refusals := rest })

/-! ### Changes from outside -/

/-- Removes the file, if it is one. -/
def remove (f : File) : Bool × File :=
  match f.state with
  | .text _ | .binary => (true, { f with state := .absent })
  | _ => (false, f)

/-- Puts a directory in the place of the file. -/
def makeDirectory (f : File) : Bool × File :=
  match f.state with
  | .text _ | .binary | .absent => (true, { f with state := .directory })
  | _ => (false, f)

/-- Removes the directory in the place of the file, if there is one. -/
def removeDirectory (f : File) : Bool × File :=
  match f.state with
  | .directory => (true, { f with state := .absent })
  | _ => (false, f)

end File

end LineShell
