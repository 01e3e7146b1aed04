/-!
# Paths

A path leads, step by step, to a file or a directory, from the root of the file system or from the
working directory.
-/

namespace PerpetualCurve

/-- The name of a file or a directory, or two points for the directory above. -/
abbrev Name := List Char

/-- A path to a file or a directory. -/
structure Path where
  steps : List Name
  /-- Whether the path starts from the root, as it begins with a slash. -/
  isAbsolute : Bool
  /-- Whether the path can lead to a directory only, as it ends with a slash. -/
  isDirectory : Bool

namespace Path

/-- The parts of a text between slashes. -/
def split : List Char → List Name
  | [] => [[]]
  | c :: rest =>
    if c = '/' then [] :: split rest
    else
      match split rest with
      | [] => [[c]]
      | part :: parts => (c :: part) :: parts

/-- Whether a part of a path stays where it is. -/
def staysPut (part : Name) : Bool := part = [] || part = ['.']

/-- The path a text spells. No file has a null character in its path. -/
def ofText? (s : List Char) : Option Path :=
  if s.contains '\x00' then none
  else
    some {
      steps := (split s).filter (!staysPut ·)
      isAbsolute := s.head? = some '/'
      isDirectory := (split s).getLast?.all staysPut }

/-- The path to the directory that a path leads into, as its text says. -/
def parent (path : Path) : Path :=
  { path with steps := path.steps.dropLast, isDirectory := true }

/-- A path followed by another one, which stays as it is if it starts from the root. -/
def append (path rest : Path) : Path :=
  if rest.isAbsolute then rest
  else { path with steps := path.steps ++ rest.steps, isDirectory := rest.isDirectory }

/-- The path of a file next to another one, with a longer name. -/
def lengthened? (path : Path) (ending : List Char) : Option Path :=
  match path.steps.getLast? with
  | none => none
  | some ['.', '.'] => none
  | some name =>
    some { path with steps := path.steps.dropLast ++ [name ++ ending], isDirectory := false }

/-- What a name has behind its last point, if it has anything before that point. -/
def extension? (name : Name) : Option (List Char) :=
  if ((name.reverse.dropWhile (· ≠ '.')).drop 1).isEmpty then none
  else some (name.reverse.takeWhile (· ≠ '.')).reverse

/-- Whether the name at the end of a path has a given extension. -/
def hasExtension (path : Path) (extension : List Char) : Bool :=
  path.steps.getLast?.any fun name => extension? name = some extension

end Path

end PerpetualCurve
