import AsmLint.Text.Utf8

/-!
# Paths

A path is a text whose components stand between slashes. A location is the list of names that leads
from the root to a file or directory; a path that starts with a slash begins at the root, any other
at the home directory.
-/

namespace AsmLint

/-- The names that lead from the root to a file or directory. -/
abbrev Location := List Text

namespace Location

/-- One component further: an empty one and `.` stay, `..` goes up (and stays at the root). -/
def step (l : Location) (component : Text) : Location :=
  if component = "" ∨ component = "." then l
  else if component = ".." then l.dropLast
  else l ++ [component]

def path (l : Location) : Text := '/' :: joinWith "/" l

end Location

namespace Path

def components (path : Text) : List Text := path.splitOn '/'

def isAbsolute (path : Text) : Bool := path.head? = some '/'

def origin (home : Location) (path : Text) : Location := if isAbsolute path then [] else home

/-- The path of a name in a directory that is given by its path. -/
def join (directory name : Text) : Text :=
  if directory = [] ∨ directory.getLast? = some '/' then directory ++ name
  else directory ++ "/" ++ name

/-- The location that a path spells, whatever exists. -/
def location (home : Location) (path : Text) : Location :=
  (components path).foldl Location.step (origin home path)

/-- A path in full, without superfluous components. Two slashes in front stay two; more are one. -/
def absolute (home : Location) (path : Text) : Text :=
  let full := (location home path).path
  if path.take 2 = "//" ∧ path.take 3 ≠ "///" then '/' :: full else full

/-! ### Parts of paths -/

/-- The last component of a path. -/
def name (path : Text) : Text := (path.reverse.takeWhile (· ≠ '/')).reverse

/-- The part of a path before its last component, up to the last slash. -/
def parent (path : Text) : Text := (path.reverse.dropWhile (· ≠ '/')).reverse

/-- The path of the directory in which a path ends. A path of slashes alone stays as it is. -/
def directory (path : Text) : Text :=
  let front := parent path
  if front.all (· = '/') then front else (front.reverse.dropWhile (· = '/')).reverse

/-- A name without its extension, which begins at the last dot. Dots in front of the name do not
begin one. -/
def stem (name : Text) : Text :=
  let body := name.dropWhile (· = '.')
  if body.contains '.' then
    name.takeWhile (· = '.') ++ ((body.reverse.dropWhile (· ≠ '.')).drop 1).reverse
  else name

def withoutExtension (path : Text) : Text := parent path ++ stem (name path)

end Path

end AsmLint
