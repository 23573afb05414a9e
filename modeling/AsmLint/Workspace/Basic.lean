import AsmLint.Source
import AsmLint.Workspace.Path

/-!
# Workspaces

A workspace is what the file system holds: directories and files, each at its location, and the home
directory where relative paths begin. A path is followed one component at a time, and every step has
to start from a directory that exists, even a step that stays or goes back.
-/

namespace AsmLint

/-! ### Files and directories -/

/-- A file. All but the first kind stand for files on which opening or reading goes wrong. -/
inductive StoredFile where
  | bytes (content : List UInt8)
  | unreadable
  | unopenable (e : SystemError)
  /-- A file that delivers raw lines and may then fail. -/
  | delivers (feed : Feed SystemError)
deriving DecidableEq, Repr

inductive Entry where
  | directory
  | file (f : StoredFile)
deriving DecidableEq, Repr

/-- The home directory and what is stored. The root, the home directory and the directories above it
exist without being stored. -/
structure Workspace where
  home : Location
  entries : List (Location × Entry) := []
  /-- At each location at most one entry is stored. -/
  distinct : (entries.map Prod.fst).Nodup := by simp
deriving DecidableEq, Repr

inductive PathError where
  | missing
  /-- A step starts from what is no directory. -/
  | notDirectory
  /-- The path, or a name in it, is longer than the file system allows. -/
  | tooLong
  /-- The path holds the character with code point zero. -/
  | embeddedNul
deriving DecidableEq, Repr

def maxNameBytes : Nat := 255

/-- A path has at most so many bytes; it is measured as it is given, before it is followed. -/
def maxPathBytes : Nat := 4095

namespace Workspace

def entry? (w : Workspace) (l : Location) : Option Entry :=
  if l.isPrefixOf w.home then some .directory else w.entries.lookup l

/-- Follows the components of a path from a location. -/
def walk (w : Workspace) (l : Location) : List Text → Except PathError (Location × Entry)
  | [] =>
    match w.entry? l with
    | some e => .ok (l, e)
    | none => .error .missing
  | component :: rest =>
    match w.entry? l with
    | none => .error .missing
    | some (.file _) => .error .notDirectory
    | some .directory =>
      if maxNameBytes < (Utf8.encode component).length then .error .tooLong
      else w.walk (l.step component) rest

def resolve (w : Workspace) (path : Text) : Except PathError (Location × Entry) :=
  if path.contains '\x00' then .error .embeddedNul
  else if path = [] then .error .missing
  else if maxPathBytes < (Utf8.encode path).length then .error .tooLong
  else w.walk (Path.origin w.home path) (Path.components path)

def file? (w : Workspace) (path : Text) : Option StoredFile :=
  match w.resolve path with
  | .ok (_, .file f) => some f
  | _ => none

def isDirectory (w : Workspace) (path : Text) : Bool :=
  match w.resolve path with
  | .ok (_, .directory) => true
  | _ => false

def isFile (w : Workspace) (path : Text) : Bool := (w.file? path).isSome

/-- The names of what is stored in a directory, in no particular order. -/
def names (w : Workspace) (directory : Location) : List Text :=
  w.entries.filterMap fun x => if x.1.dropLast = directory then x.1.getLast? else none

/-! ### Changes -/

/-- Nothing at a location. -/
def eraseAt (w : Workspace) (l : Location) : Workspace where
  home := w.home
  entries := w.entries.filter (·.1 ≠ l)
  distinct := w.distinct.sublist (List.filter_sublist.map _)

/-- An entry at a location, in place of what was there. -/
def insertAt (w : Workspace) (l : Location) (e : Entry) : Workspace where
  home := w.home
  entries := (l, e) :: (w.eraseAt l).entries
  distinct := by
    rw [List.map_cons, List.nodup_cons]
    exact ⟨by simp [eraseAt], (w.eraseAt l).distinct⟩

/-- A directory at a location where nothing is. -/
def makeDirectory (w : Workspace) (l : Location) : Workspace :=
  if (w.entry? l).isSome then w else w.insertAt l .directory

/-- Stores an entry under a path, and makes the directories above it. -/
def write (w : Workspace) (path : Text) (e : Entry) : Workspace :=
  let l := Path.location w.home path
  ((List.range l.length).foldl (fun w n => w.makeDirectory (l.take n)) w).insertAt l e

def remove (w : Workspace) (path : Text) : Workspace := w.eraseAt (Path.location w.home path)

def ofEntries (home : Location) (es : List (Text × Entry)) : Workspace :=
  es.foldl (fun w e => w.write e.1 e.2) { home }

end Workspace

end AsmLint
