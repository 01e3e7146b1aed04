import PerpetualCurve.Settings.Path

/-!
# Hosts

A host is what settings are loaded from: a tree of files, a working directory within it, and
environment variables.
-/

namespace PerpetualCurve

/-- The files, each with the names that lead to it from the root and its contents, and the values of
the environment variables. -/
structure Host where
  files : List (List Name × String)
  bindings : List (String × String)
  /-- The names that lead from the root to the working directory. -/
  directory : List Name := []
  /-- The home directory of the account, for when no variable names one. -/
  home : Option (List Char) := none
  /-- How many items a list has room for in memory. -/
  room : Nat := 2 ^ 27

namespace Host

variable (host : Host)

/-- The value of an environment variable. -/
def valueOf? (name : List Char) : Option (List Char) :=
  (host.bindings.lookup (String.ofList name)).map String.toList

/-- The contents of the file that names lead to. -/
def fileAt? (place : List Name) : Option String := host.files.lookup place

/-- Whether names lead to a directory. There are no others than those on the way to a file or to the
working directory. -/
def hasDirectory (place : List Name) : Bool :=
  place.isPrefixOf host.directory ||
    host.files.any fun (file, _) => place.isPrefixOf file && place.length < file.length

/-- Where steps lead from a directory. Every step is taken in a directory; there is none above the
root. -/
def walk? (place : List Name) : (steps : List Name) → Option (List Name)
  | [] => some place
  | step :: steps =>
    if !host.hasDirectory place then none
    else if step = ['.', '.'] then walk? place.dropLast steps
    else walk? (place ++ [step]) steps

/-- The path that leads from the root to the same place. -/
def fromRoot (path : Path) : Path :=
  if path.isAbsolute then path
  else { path with steps := host.directory ++ path.steps, isAbsolute := true }

/-- Where a path leads. -/
def placeOf? (path : Path) : Option (List Name) := host.walk? [] (host.fromRoot path).steps

/-- The contents of the file at the end of a path. -/
def read? (path : Path) : Option String :=
  if path.isDirectory then none else (host.placeOf? path).bind host.fileAt?

/-- Whether there is a file or a directory at the end of a path. -/
def exists? (path : Path) : Bool :=
  (host.read? path).isSome || (host.placeOf? path).any host.hasDirectory

end Host

end PerpetualCurve
