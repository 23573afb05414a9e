import AsmLint.Text.Quoted
import AsmLint.Workspace.Basic

/-!
# Finding tests

The tests in a directory are its files whose names end in `.txt`, in whatever case, in the order of
their code points.
-/

namespace AsmLint

/-- A directory whose content cannot be listed. -/
structure DirectoryError where
  path : Text
  why : PathError
deriving DecidableEq, Repr

def DirectoryError.message (e : DirectoryError) : Text :=
  match e.why with
  | .missing => "[Errno 2] No such file or directory: " ++ quoted e.path
  | .notDirectory => "[Errno 20] Not a directory: " ++ quoted e.path
  | .tooLong => "[Errno 36] File name too long: " ++ quoted e.path
  | .embeddedNul => "embedded null byte"

def isTestName (name : Text) : Bool := (name.drop (name.length - 4)).map Char.toLower = ".txt"

/-- Names in the order of their code points. -/
def sortNames (names : List Text) : List Text := names.mergeSort fun a b => decide (¬b < a)

/-- Whether a name in a directory is that of a file. It is looked up under the path that the two
make, which may be too long although the path of the directory is not. -/
def Workspace.hasFile (w : Workspace) (directory name : Text) : Bool :=
  w.isFile (Path.join directory name)

/-- The names of the tests in a directory. -/
def Workspace.testNames (w : Workspace) (directory : Text) :
    Except DirectoryError (List Text) :=
  match w.resolve directory with
  | .error e => .error ⟨directory, e⟩
  | .ok (_, .file _) => .error ⟨directory, .notDirectory⟩
  | .ok (l, .directory) =>
    .ok (sortNames ((w.names l).filter fun name => isTestName name && w.hasFile directory name))

theorem mem_sortNames {name : Text} {names : List Text} : name ∈ sortNames names ↔ name ∈ names :=
  List.mem_mergeSort

end AsmLint
