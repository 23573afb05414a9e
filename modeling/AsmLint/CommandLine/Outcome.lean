import AsmLint.CommandLine.Help
import AsmLint.Workspace.Open

/-!
# Outcomes

The arguments of a command say which source is checked and how, the source is opened and checked,
and what comes of it is an exit status and the texts on the two channels. Two faults are not
handled: a line that still holds a terminator, which no line of a byte source does, and a limit that
is set to nothing, as soon as it is asked for.
-/

namespace AsmLint

/-- A fault that the program does not handle. -/
inductive Crash where
  | split (e : SplitError)
  /-- A limit that is set to nothing is compared with a number. -/
  | limitNotNumber
deriving DecidableEq, Repr

def Crash.message : Crash → Text
  | split e => e.message
  | limitNotNumber => "'<' not supported between instances of 'list' and 'int'"

inductive Exit (κ : Type) where
  | status (code : Nat)
  | crash (c : κ)
deriving DecidableEq, Repr

/-- What a program left: its end and the texts on its two channels. -/
structure Outcome (κ : Type) where
  exit : Exit κ
  out : Text
  err : Text
deriving DecidableEq, Repr

/-- What comes of arguments that do not lead to a run. -/
def Stop.outcome : Stop → Outcome Crash
  | help => ⟨.status 0, Help.text, []⟩
  | usage e => ⟨.status 2, [], Help.rejection e⟩

namespace Invocation

def sourceName (i : Invocation) : Text :=
  if i.source = standardInput then "standard input" else "file '" ++ i.source ++ "'"

def openFailure (u : Unavailable) : Text :=
  "Error: Could not open file '" ++ u.path ++ "': " ++ u.why.reason

def readFailure (i : Invocation) (e : SystemError) : Text :=
  "Error: Could not read " ++ i.sourceName ++ ": " ++ e.reason

/-- What comes of a run over the source. -/
def conclude (i : Invocation) (r : Run SystemError) : Outcome Crash :=
  match r.ending with
  | .finished => ⟨.status (if i.strict && r.summary.invalid ≠ 0 then 1 else 0), r.out, r.err⟩
  | .refused e => ⟨.crash (.split e), r.out, r.err⟩
  | .failed e => ⟨.status 1, r.out, r.err ++ unlines [i.readFailure e]⟩

/-- Checks lines that have been cut to their length. Where there is none, the number of tokens is
not asked for. -/
def check (i : Invocation) (f : Feed SystemError) : Outcome Crash :=
  match i.maxTokens, f.lines with
  | .number n, _ => i.conclude (f.check (i.checkOptions n))
  | .nothing, [] => i.conclude (f.check {})
  | .nothing, _ :: _ => ⟨.crash .limitNotNumber, [], []⟩

/-- Checks the source, given what became of opening it. -/
def run (i : Invocation) : Except Unavailable (Feed SystemError) → Outcome Crash
  | .error u => ⟨.status 1, [], unlines [openFailure u]⟩
  | .ok raw =>
    match i.maxLineLength with
    | none => i.check (raw.cut none)
    | some (.number n) => i.check (raw.cut (some n))
    | some .nothing => ⟨.crash .limitNotNumber, [], []⟩

def openIn (i : Invocation) (w : Workspace) (stdin : Feed SystemError) :
    Except Unavailable (Feed SystemError) :=
  if i.source = standardInput then .ok stdin else w.sourceAt i.source

end Invocation

/-- What a command leaves, given its arguments. -/
def Outcome.ofCommand (args : List Text) (w : Workspace) (stdin : Feed SystemError) :
    Outcome Crash :=
  match Invocation.ofArguments args with
  | .error stop => stop.outcome
  | .ok i => i.run (i.openIn w stdin)

end AsmLint
