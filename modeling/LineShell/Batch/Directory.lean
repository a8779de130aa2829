import LineShell.Batch.Path
import LineShell.File

/-!
# Directories

The files in the working directory and around it, and where paths lead that begin there. On the way
along a path there has to be a directory before each step, even before one that leads back.
-/

namespace LineShell

/-- A place among all files: the names on the way to it from the root, the last one first. -/
abbrev Place := List String

/-- The working directory, which lies among the temporary files under a name that no path has. -/
def Place.here : Place := ["/", "tmp"]

/-- The place where the standard input can be read as a file. -/
def Place.input : Place := ["stdin", "dev"]

/-- What is found around the working directory. -/
structure Directory where
  /-- What is found in some places, apart from what every system has; in the others there is
  nothing. -/
  entries : List (Place × FileState) := []
  deriving DecidableEq, Repr

namespace Directory

/-- What is found on every system. -/
def system : List (Place × FileState) :=
  ["bin", "boot", "dev", "etc", "home", "lib", "media", "mnt", "opt", "proc", "root", "run", "sbin",
    "srv", "sys", "tmp", "usr", "var"].map (fun name => ([name], .directory)) ++
  [([], .directory), (Place.here, .directory), (["null", "dev"], .sink),
    (["random", "dev"], .binary), (["urandom", "dev"], .binary), (["shm", "dev"], .directory)]

/-- What is found in a place. -/
def get (d : Directory) (p : Place) : FileState :=
  (d.entries.lookup p <|> system.lookup p).getD .absent

/-- The directory with something found in a place. -/
def put (d : Directory) (p : Place) (s : FileState) : Directory :=
  if (d.entries.lookup p).isSome then
    ⟨d.entries.map fun (q, old) => if q = p then (q, s) else (q, old)⟩
  else ⟨d.entries ++ [(p, s)]⟩

/-- Where a name leads from a place, which has to be a directory. -/
def step (d : Directory) (p : Place) (name : String) : Except SystemError Place :=
  match d.get p with
  | .directory =>
    if name = "." then .ok p
    else if name = ".." then .ok p.tail
    else if name.utf8ByteSize > Path.maxName then .error .nameTooLong
    else .ok (name :: p)
  | .absent => .error .notFound
  | .unreachable reason => .error reason
  | _ => .error .notDirectory

/-- The place that a path leads to. -/
def place (d : Directory) (path : String) : Except SystemError Place :=
  if path.toList.contains '\x00' then .error .nulInName
  else if path = "" then .error .notFound
  else if path.utf8ByteSize > Path.maxPath then .error .nameTooLong
  else (Path.parts path).foldlM d.step (if Path.isAbsolute path then [] else Place.here)

/-- What is found under a path. -/
def find (d : Directory) (path : String) : FileState :=
  match d.place path with
  | .ok p => d.get p
  | .error reason => .unreachable reason

/-- The directory after what is found under a path has changed. -/
def update (d : Directory) (path : String) (s : FileState) : Directory :=
  match d.place path, s with
  | .ok p, .text _ | .ok p, .binary => d.put p s
  | _, _ => d

/-- Follows some names from a place, and makes the directories that are missing. -/
def makeDirectories (d : Directory) (p : Place) :
    List String → Except SystemError (Directory × Place)
  | [] => .ok (d, p)
  | name :: names => do
    let p ← d.step p name
    let d := if d.get p = .absent then d.put p .directory else d
    makeDirectories d p names

/-- The directory after a file was opened to add to it: if there is none it is made, and the
directories on the way to it as well. -/
def openForAppend (d : Directory) (path : String) : Except SystemError Directory := do
  let names := Path.names path
  let start := if Path.isAbsolute path then [] else Place.here
  let (d, p) ← d.makeDirectories start names.dropLast
  let p ← d.step p (names.getLast?.getD ".")
  match d.get p with
  | .absent => return d.put p (.text "")
  | s => return (← (s.write (.append "")).map fun _ => d)

/-- The directory with a file. -/
def addText (d : Directory) (path content : String) : Directory :=
  match d.openForAppend path with
  | .ok d => d.update path (.text content)
  | .error _ => d

/-- The names in the working directory, with what is found there. -/
def listing (d : Directory) : List (String × FileState) :=
  d.entries.filterMap fun (p, s) =>
    match p with
    | name :: rest => if rest = Place.here then some (name, s) else none
    | [] => none

end Directory

end LineShell
