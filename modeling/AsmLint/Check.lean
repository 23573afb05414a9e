import AsmLint.Statement
import AsmLint.ReportLine
import AsmLint.Source

/-!
# Checking lines

Lines are checked one by one in their order. Each adds a block: its report, which goes to the output
channel, and its diagnostics, which go to the error channel. A block depends on nothing but the
number of the line, the line itself and the options; so a run is the list of its blocks and the way
it ended, and what it wrote is what its blocks hold.
-/

namespace AsmLint

structure CheckOptions where
  /-- The number of tokens of a line that are checked. -/
  maxTokens : Int := defaultTokenLimit
  /-- Whether an unsupported shape is a violation. -/
  rejectUnsupported : Bool := false
  explain : Bool := false
deriving DecidableEq, Repr

/-! ### One line -/

/-- What one line adds to a run. -/
structure Block where
  report : List Text
  diagnostics : List Text
  isValid : Bool
  isTruncated : Bool
deriving DecidableEq, Repr

/-- The warning that only the first tokens of a line were checked. -/
def truncationWarning (number : Nat) (maxTokens : Int) : Text :=
  "Warning (Line " ++ decimal number ++ "): more than " ++ signedDecimal maxTokens ++
    " tokens, only the first " ++ signedDecimal maxTokens ++ " were checked"

def noteLine (number : Nat) (note : Text) : Text :=
  "  note (Line " ++ decimal number ++ "): " ++ note

/-- A statement and the verdict on it. -/
structure Judgement where
  statement : Statement
  verdict : Verdict
deriving DecidableEq, Repr

def judgeLine (o : CheckOptions) (line : Text) : Except SplitError Judgement :=
  (Statement.ofLine line o.maxTokens).map fun s => ⟨s, judge s.words o.rejectUnsupported⟩

namespace Block

/-- The block of a line that has been judged: the warning comes before the notes. -/
def ofJudgement (o : CheckOptions) (number : Nat) (j : Judgement) : Block where
  report := j.verdict.report number
  diagnostics :=
    (if j.statement.truncated then [truncationWarning number o.maxTokens] else []) ++
      (if o.explain then j.verdict.notes.map (noteLine number) else [])
  isValid := j.verdict.isValid
  isTruncated := j.statement.truncated

def ofLine (o : CheckOptions) (number : Nat) (line : Text) : Except SplitError Block :=
  (judgeLine o line).map (ofJudgement o number)

end Block

/-! ### All lines -/

/-- The blocks of lines that are numbered from `number`, up to the first that cannot be cut into
tokens, and why that one cannot. -/
def blocksFrom (o : CheckOptions) (number : Nat) : List Text → List Block × Option SplitError
  | [] => ([], none)
  | line :: rest =>
    match Block.ofLine o number line with
    | .error e => ([], some e)
    | .ok b =>
      let later := blocksFrom o (number + 1) rest
      (b :: later.1, later.2)

inductive Ending (ε : Type) where
  | finished
  /-- A line could not be cut into tokens. -/
  | refused (e : SplitError)
  | failed (e : ε)
deriving DecidableEq, Repr

/-- A run over lines: one block for each line that was checked, and how it ended. -/
structure Run (ε : Type) where
  blocks : List Block
  ending : Ending ε
deriving DecidableEq, Repr

structure Summary where
  lines : Nat
  valid : Nat
  invalid : Nat
  truncated : Nat
deriving DecidableEq, Repr

variable {ε : Type}

/-- Checks the lines of a feed, which are numbered from 1. -/
def Feed.check (o : CheckOptions) (f : Feed ε) : Run ε :=
  let (blocks, refusal) := blocksFrom o 1 f.lines
  match refusal, f.failure with
  | some e, _ => ⟨blocks, .refused e⟩
  | none, some e => ⟨blocks, .failed e⟩
  | none, none => ⟨blocks, .finished⟩

namespace Run

def out (r : Run ε) : Text := unlines (r.blocks.flatMap Block.report)

def err (r : Run ε) : Text := unlines (r.blocks.flatMap Block.diagnostics)

def summary (r : Run ε) : Summary where
  lines := r.blocks.length
  valid := r.blocks.countP Block.isValid
  invalid := r.blocks.countP (!·.isValid)
  truncated := r.blocks.countP Block.isTruncated

/-- Every line is either valid or invalid. -/
theorem valid_add_invalid (r : Run ε) : r.summary.valid + r.summary.invalid = r.summary.lines := by
  simpa [summary] using (List.length_eq_countP_add_countP Block.isValid (l := r.blocks)).symm

end Run

end AsmLint
