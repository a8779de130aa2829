/-!
# Paths

A path is a row of names between slashes. It begins at the root or in the working directory. Two
dots lead to the directory above, a single dot nowhere; a slash at the end says as a dot does that
what is before it has to be a directory.
-/

namespace LineShell.Path

/-- Whether a path begins at the root. -/
def isAbsolute (path : String) : Bool :=
  path.toList.head? == some '/'

/-- The parts of a path that say where it leads. -/
def parts (path : String) : List String :=
  let names := (path.splitOn "/").filter (· != "")
  if path.toList.getLast? == some '/' then names ++ ["."] else names

/-- The names of a path without single dots. -/
def names (path : String) : List String :=
  (parts path).filter (· != ".")

/-- The name of what a path leads to, unless it is known as the directory above something. -/
def fileName? (path : String) : Option String :=
  (names path).getLast?.filter (· != "..")

/-- How many bytes a name may have. -/
def maxName : Nat := 255

/-- How many bytes a path may have. -/
def maxPath : Nat := 4095

end LineShell.Path
