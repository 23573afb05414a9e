import AsmLint.Workspace.Basic

/-!
# Opening source files

A source file is opened only if it exists, is a regular file and may be read, in this order; each of
these, and a failure of the system to open it, is a reason why it is unavailable. Its bytes are read
as lenient UTF-8 and cut into raw lines.
-/

namespace AsmLint

inductive Unavailability where
  | missing
  | notRegular
  | unreadable
  /-- The system failed to open or to read it. -/
  | system (e : SystemError)
deriving DecidableEq, Repr

/-- The reason as it is told to the user. -/
def Unavailability.reason : Unavailability → Text
  | missing => "file not found"
  | notRegular => "not a regular file"
  | unreadable => "file is not readable"
  | system e => e.reason

structure Unavailable where
  path : Text
  why : Unavailability
deriving DecidableEq, Repr

def Unavailable.message (u : Unavailable) : Text := u.path ++ ": " ++ u.why.reason

/-- The raw lines of a byte sequence. -/
def Feed.ofBytes (bs : List UInt8) : Feed SystemError := { lines := rawLines (Utf8.decodeLossy bs) }

/-- What an opened file delivers. -/
def StoredFile.feed : StoredFile → Except Unavailability (Feed SystemError)
  | bytes content => .ok (.ofBytes content)
  | unreadable => .error .unreadable
  | unopenable e => .error (.system e)
  | delivers feed => .ok feed

/-- Why the lines of a source file stop coming. -/
inductive ReadError where
  /-- The file cannot be opened, or fails while it is read. -/
  | unavailable (u : Unavailable)
  | limit (e : LimitError)
deriving DecidableEq, Repr

namespace Workspace

def sourceAt (w : Workspace) (path : Text) : Except Unavailable (Feed SystemError) :=
  match w.resolve path with
  | .error _ => .error ⟨path, .missing⟩
  | .ok (_, .directory) => .error ⟨path, .notRegular⟩
  | .ok (_, .file f) => f.feed.mapError (⟨path, ·⟩)

/-- The lines of a source file as they are checked. The file is opened before the limit is tested,
and every line that comes before a failure is delivered. -/
def linesAt (w : Workspace) (path : Text) (limit : Option Int) : Feed ReadError :=
  match w.sourceAt path with
  | .error u => ⟨[], some (.unavailable u)⟩
  | .ok raw =>
    match raw.cut? limit with
    | .error e => ⟨[], some (.limit e)⟩
    | .ok f => ⟨f.lines, f.failure.map fun e => .unavailable ⟨path, .system e⟩⟩

end Workspace

end AsmLint
