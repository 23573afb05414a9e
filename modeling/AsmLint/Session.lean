import AsmLint.Check
import AsmLint.Workspace.Open

/-!
# Sessions

A session holds readers, from which items are pulled one at a time. A reader does nothing before it
is first pulled: only then is a line cut into tokens, a file opened or a limit tested. A reader may
take its lines from an earlier reader, which others may pull as well; what one takes the others do
not get. A reader that has ended, failed or been closed delivers nothing more, and closing it leaves
the reader that it takes from alone.
-/

namespace AsmLint

/-! ### Items and faults -/

/-- Why a reader stops. -/
inductive ReaderFault where
  | split (e : SplitError)
  | limit (e : LimitError)
  | unavailable (u : Unavailable)
  | system (e : SystemError)
deriving DecidableEq, Repr

namespace ReaderFault

def message : ReaderFault → Text
  | split e => e.message
  | limit e => e.message
  | unavailable u => u.message
  | system e => e.message

/-- The fault of a source file. -/
def ofReadError : ReadError → ReaderFault
  | .unavailable u => unavailable u
  | .limit e => limit e

end ReaderFault

inductive Item where
  | line (text : Text)
  | token (t : Token)
deriving DecidableEq, Repr

namespace Item

def text : Item → Text
  | line text => text
  | token t => t.text

/-- An item as a line that is checked. -/
def cut (limit : Option Nat) (x : Item) : Item := line (statementLine limit x.text)

end Item

/-! ### Readers -/

inductive Reader where
  /-- Items that are at hand, and the fault that follows them, if one does. -/
  | ready (items : List Item) (fault : Option ReaderFault)
  /-- The tokens of a line, not yet cut. -/
  | tokens (line : Text) (limit : Int)
  /-- The lines of a file, not yet opened. -/
  | file (path : Text) (limit : Option Int)
  /-- The raw lines of another reader, as they are checked. -/
  | lines (source : Nat) (limit : Option Int)
deriving DecidableEq, Repr

namespace Reader

def ended : Reader := ready [] none

def ofFeed (f : Feed SystemError) : Reader := ready (f.lines.map .line) (f.failure.map .system)

/-- A reader as it is when it is pulled. -/
def begin (w : Workspace) : Reader → Reader
  | tokens line limit =>
    match Token.ofLine line limit with
    | .error e => ready [] (some (.split e))
    | .ok ts => ready (ts.map .token) none
  | file path limit =>
    let f := w.linesAt path limit
    ready (f.lines.map .line) (f.failure.map .ofReadError)
  | r => r

end Reader

inductive Pull where
  | item (x : Item)
  | ended
  | failed (e : ReaderFault)
deriving DecidableEq, Repr

/-- Pulls the reader of the given number: what comes of it, and the readers afterwards. -/
def pullReader (w : Workspace) (rs : List Reader) (i : Nat) : Pull × List Reader :=
  match (rs[i]?.getD .ended).begin w with
  | .ready (x :: xs) fault => (.item x, rs.set i (.ready xs fault))
  | .ready [] none => (.ended, rs.set i .ended)
  | .ready [] (some e) => (.failed e, rs.set i .ended)
  | .lines source limit =>
    match lineLimit? limit with
    | .error e => (.failed (.limit e), rs.set i .ended)
    | .ok n =>
      if source < i then
        match pullReader w rs source with
        | (.item x, rs) => (.item (x.cut n), rs)
        | (p, rs) => (p, rs.set i .ended)
      else (.ended, rs)
  | _ => (.ended, rs)
termination_by i

/-- Everything that a reader has yet to deliver, and the fault that follows it. -/
def remaining (w : Workspace) (rs : List Reader) (i : Nat) : List Item × Option ReaderFault :=
  match (rs[i]?.getD .ended).begin w with
  | .ready items fault => (items, fault)
  | .lines source limit =>
    match lineLimit? limit with
    | .error e => ([], some (.limit e))
    | .ok n =>
      if source < i then
        let (items, fault) := remaining w rs source
        (items.map (Item.cut n), fault)
      else ([], none)
  | _ => ([], none)
termination_by i

/-! ### Sessions -/

/-- The workspace, the readers in the order in which they were made, and the names under which they
are known; a name that is given again means the later reader. -/
structure Session where
  workspace : Workspace
  readers : List Reader := []
  names : List (Text × Nat) := []
deriving DecidableEq, Repr

inductive Step where
  | stream (name : Text) (raw : Feed SystemError)
  | tokens (name line : Text) (limit : Int)
  | lines (name source : Text) (limit : Option Int)
  | file (name path : Text) (limit : Option Int)
  | write (path : Text) (e : Entry)
  | remove (path : Text)
  | close (name : Text)
  | next (name : Text)
  | rest (name : Text)
  | check (name : Text) (o : CheckOptions)
  | judge (name : Text) (o : CheckOptions)
deriving DecidableEq, Repr

inductive Answer where
  | made
  | pulled (p : Pull)
  | drained (items : List Item) (fault : Option ReaderFault)
  | checked (r : Run ReaderFault)
  | judged (j : Judgement)
deriving DecidableEq, Repr

namespace Session

/-- The number of the reader of a given name; it is the number of no reader if there is none. -/
def number (s : Session) (name : Text) : Nat := (s.names.lookup name).getD s.readers.length

def add (s : Session) (name : Text) (r : Reader) : Session :=
  { s with readers := s.readers ++ [r], names := (name, s.readers.length) :: s.names }

def pull (s : Session) (i : Nat) : Pull × Session :=
  let (p, rs) := pullReader s.workspace s.readers i
  (p, { s with readers := rs })

def advance (s : Session) (i : Nat) : Nat → Session
  | 0 => s
  | n + 1 => (s.pull i).2.advance i n

/-- Checks what remains of a reader. The lines behind one that is refused stay in the reader. -/
def check (s : Session) (i : Nat) (o : CheckOptions) : Run ReaderFault × Session :=
  let (items, fault) := remaining s.workspace s.readers i
  let r := Feed.check o ⟨items.map Item.text, fault⟩
  (r, s.advance i (r.blocks.length + 1))

def step (s : Session) : Step → Answer × Session
  | .stream name raw => (.made, s.add name (.ofFeed raw))
  | .tokens name line limit => (.made, s.add name (.tokens line limit))
  | .lines name source limit => (.made, s.add name (.lines (s.number source) limit))
  | .file name path limit => (.made, s.add name (.file path limit))
  | .write path e => (.made, { s with workspace := s.workspace.write path e })
  | .remove path => (.made, { s with workspace := s.workspace.remove path })
  | .close name => (.made, { s with readers := s.readers.set (s.number name) .ended })
  | .next name =>
    let (p, s) := s.pull (s.number name)
    (.pulled p, s)
  | .rest name =>
    let (items, fault) := remaining s.workspace s.readers (s.number name)
    (.drained items fault, s.advance (s.number name) (items.length + 1))
  | .check name o =>
    let (r, s) := s.check (s.number name) o
    (.checked r, s)
  | .judge name o =>
    match s.pull (s.number name) with
    | (.item x, s) =>
      match judgeLine o x.text with
      | .ok j => (.judged j, s)
      | .error e => (.pulled (.failed (.split e)), s)
    | (p, s) => (.pulled p, s)

/-- Makes steps one after the other. -/
def run (s : Session) : List Step → List Answer
  | [] => []
  | x :: xs =>
    let (a, s) := s.step x
    a :: s.run xs

end Session

end AsmLint
