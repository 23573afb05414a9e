import AsmLint.Text.LineBreak

/-!
# Sources of lines

A source delivers raw lines, and then either its end or a failure. Before it is checked a raw line
loses its terminator and, where there is a limit, all but its first characters; what is cut off is
lost and starts no new line.
-/

namespace AsmLint

/-! ### Failures of the system -/

/-- A failure that the system reports when a source is opened or read. -/
inductive SystemError where
  | unexplained
  | described (text : Text)
  /-- A numbered failure and the reason that belongs to the number. -/
  | numbered (code : Int) (reason : Text)
deriving DecidableEq, Repr

namespace SystemError

/-- The failure in full. -/
def message : SystemError → Text
  | unexplained => []
  | described text => text
  | numbered code reason => "[Errno " ++ signedDecimal code ++ "] " ++ reason

/-- The failure as part of a longer message: the bare reason where one is given. -/
def reason : SystemError → Text
  | numbered code [] => message (numbered code [])
  | numbered _ reason => reason
  | e => e.message

end SystemError

/-! ### Feeds -/

/-- What a source of lines delivers: lines, and then either its end or a failure. -/
structure Feed (ε : Type) where
  lines : List Text
  failure : Option ε := none
deriving DecidableEq, Repr

/-! ### Length limits -/

/-- A limit on the length of lines is below 1. -/
structure LimitError where
  limit : Int
deriving DecidableEq, Repr

def LimitError.message (e : LimitError) : Text :=
  "max_line_length must be at least 1, got " ++ signedDecimal e.limit

/-- A limit on the length of lines that has been found to be at least 1, or no limit. -/
def lineLimit? : Option Int → Except LimitError (Option Nat)
  | none => .ok none
  | some n => if n < 1 then .error ⟨n⟩ else .ok (some n.toNat)

/-- A raw line as it is checked. -/
def statementLine (limit : Option Nat) (raw : Text) : Text :=
  match limit with
  | none => dropTerminator raw
  | some n => (dropTerminator raw).take n

namespace Feed

variable {ε : Type}

/-- The lines of a feed of raw lines, as they are checked. -/
def cut (limit : Option Nat) (f : Feed ε) : Feed ε :=
  { f with lines := f.lines.map (statementLine limit) }

/-- The same for a limit that has yet to be tested. -/
def cut? (limit : Option Int) (f : Feed ε) : Except LimitError (Feed ε) :=
  (lineLimit? limit).map f.cut

end Feed

end AsmLint
