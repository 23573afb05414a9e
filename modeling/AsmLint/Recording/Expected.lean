import AsmLint.Text.Quoted
import AsmLint.Workspace.Open

/-!
# Recorded reports

Beside a test stands the report that is expected of it, in a file of the same stem. It is read as
strict UTF-8, and whatever ends its lines is read as a line feed.
-/

namespace AsmLint

/-! ### Text that is not UTF-8 -/

/-- Why bytes are no character, as it is told to the user. -/
def Utf8.Flaw.reason : Utf8.Flaw → Text
  | start => "invalid start byte"
  | broken => "invalid continuation byte"
  | truncated => "unexpected end of data"

/-- The message for the user: a single bad byte is shown, of several only the place is given. -/
def Utf8.DecodeError.message (e : Utf8.DecodeError) : Text :=
  "'utf-8' codec can't decode " ++
    (match e.bytes with
    | [b] => "byte 0x" ++ Quoted.hex 2 b.toNat ++ " in position " ++ decimal e.position
    | bs =>
      "bytes in position " ++ decimal e.position ++ "-" ++ decimal (e.position + bs.length - 1)) ++
    ": " ++ e.why.reason

/-! ### Files as text -/

/-- Why a file cannot be read as text. -/
inductive ReadingError where
  | undecodable (e : Utf8.DecodeError)
  /-- The file under the path may not be read. -/
  | denied (path : Text)
  | system (e : SystemError)
deriving DecidableEq, Repr

def ReadingError.message : ReadingError → Text
  | undecodable e => e.message
  | denied path => "[Errno 13] Permission denied: " ++ quoted path
  | system e => e.message

/-- The text of the file under a path. A file that fails while it is read has no text, whatever it
delivered before. -/
def StoredFile.text (path : Text) : StoredFile → Except ReadingError Text
  | bytes content => (Utf8.decodeStrict? content).mapError .undecodable
  | unreadable => .error (.denied path)
  | unopenable e => .error (.system e)
  | delivers ⟨_, some e⟩ => .error (.system e)
  | delivers ⟨lines, none⟩ => .ok lines.flatten

/-! ### Expected reports -/

def expectedPath (test : Text) : Text := Path.withoutExtension test ++ ".expected"

/-- The report that is expected of a test, if one is recorded. -/
def Workspace.expectedReport (w : Workspace) (test : Text) : Except ReadingError (Option Text) :=
  match w.file? (expectedPath test) with
  | none => .ok none
  | some f => (f.text (expectedPath test)).map fun t => some (unifyTerminators t)

end AsmLint
