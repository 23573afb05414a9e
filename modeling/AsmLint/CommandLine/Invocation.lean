import AsmLint.Check
import AsmLint.CommandLine.Argument
import AsmLint.Numeral

/-!
# Invocations

The sorted arguments are acted on from left to right. The first that fails, or that asks for help,
decides; only when all have been taken are those left over that nothing has taken, and only after
them is it seen whether two options exclude each other.
-/

namespace AsmLint

def defaultSource : Text := "a.txt"

/-- The name that stands for standard input. -/
def standardInput : Text := "-"

/-- The line length that goes with the default number of tokens as the reference limits. -/
def referenceLineLength : Nat := 255

/-! ### Errors -/

inductive UsageError where
  | ambiguous (a : Argument.Ambiguity)
  /-- A value is attached to an option that takes none. -/
  | ignoredValue (s : Switch) (value : Text)
  /-- No value follows an option that takes one. -/
  | missingValue (l : Limit)
  | badValue (l : Limit) (e : NumeralError)
  | unrecognized (arguments : List Text)
  /-- The reference limits are asked for together with a limit. -/
  | conflictingLimits
deriving DecidableEq, Repr

def UsageError.message : UsageError → Text
  | ambiguous a =>
    "ambiguous option: " ++ a.argument ++ " could match " ++
      joinWith ", " (a.candidates.map Switch.spelling)
  | ignoredValue s value =>
    "argument " ++ s.display ++ ": ignored explicit argument " ++ quoted value
  | missingValue l => "argument " ++ (Switch.limit l).display ++ ": expected one argument"
  | badValue l e => "argument " ++ (Switch.limit l).display ++ ": " ++ e.message
  | unrecognized arguments => "unrecognized arguments: " ++ joinWith " " arguments
  | conflictingLimits =>
    (Switch.flag .referenceLimits).spelling ++ " cannot be combined with " ++
      (Switch.limit .tokens).spelling ++ " or " ++ (Switch.limit .lineLength).spelling

/-- Why the arguments do not lead to a run. -/
inductive Stop where
  | help
  | usage (e : UsageError)
deriving DecidableEq, Repr

/-! ### What has been asked for so far -/

/-- The setting of a limit. It is set to nothing by the separator as its attached value, because a
separator is dropped from the values of an argument before they are read. -/
inductive Bound where
  | number (n : Nat)
  | nothing
deriving DecidableEq, Repr

/-- What the arguments so far ask for. -/
structure Request where
  source : Option Text := none
  maxTokens : Option Bound := none
  maxLineLength : Option Bound := none
  referenceLimits : Bool := false
  rejectUnsupported : Bool := false
  strict : Bool := false
  explain : Bool := false
  /-- The arguments that nothing has taken. -/
  extras : List Text := []
deriving DecidableEq, Repr

namespace Request

/-- One more argument that nothing takes. -/
def leave (r : Request) (arg : Text) : Request := { r with extras := r.extras ++ [arg] }

/-- A limit is set; an earlier setting is forgotten. -/
def setLimit (r : Request) (l : Limit) (b : Bound) : Request :=
  match l with
  | .tokens => { r with maxTokens := some b }
  | .lineLength => { r with maxLineLength := some b }

def setFlag (r : Request) : Flag → Request
  | .referenceLimits => { r with referenceLimits := true }
  | .rejectUnsupported => { r with rejectUnsupported := true }
  | .strict => { r with strict := true }
  | .explain => { r with explain := true }

def readLimit (r : Request) (l : Limit) (value : Text) : Except Stop Request :=
  if value = "--" then .ok (r.setLimit l .nothing)
  else
    match Numeral.positive? value with
    | .error e => .error (.usage (.badValue l e))
    | .ok n => .ok (r.setLimit l (.number n))

/-- What follows the letter that asks for help may only be that letter again. -/
def readHelpLetters : Text → Stop
  | ['h'] => .help
  | 'h' :: behind => readHelpLetters behind
  | behind => .usage (.ignoredValue .help behind)

/-- Acts on arguments from left to right. The source is the first word that is no limit's value; a
separator beside it is dropped, and one that stands alone makes the source the default one. -/
def read (r : Request) : List Argument → Except Stop Request
  | [] => .ok r
  | .unknown arg :: rest => (r.leave arg).read rest
  | .helpLetters behind :: _ => .error (readHelpLetters behind)
  | .word w :: rest =>
    if r.source.isSome then (r.leave w).read rest
    else
      match rest with
      | .separator :: rest => { r with source := some w }.read rest
      | rest => { r with source := some w }.read rest
  | .separator :: rest =>
    if r.source.isSome then (r.leave "--").read rest
    else
      match rest with
      | .word w :: rest => { r with source := some w }.read rest
      | rest => { r with source := some defaultSource }.read rest
  | .switch .help none :: _ => .error .help
  | .switch (.flag f) none :: rest => (r.setFlag f).read rest
  | .switch (.limit l) (some value) :: rest =>
    match r.readLimit l value with
    | .error e => .error e
    | .ok r => r.read rest
  | .switch (.limit l) none :: .word value :: rest =>
    match r.readLimit l value with
    | .error e => .error e
    | .ok r => r.read rest
  | .switch (.limit l) none :: _ => .error (.usage (.missingValue l))
  | .switch s (some value) :: _ => .error (.usage (.ignoredValue s value))

end Request

/-! ### Invocations -/

/-- A run that was asked for: its source, and how the source is checked. -/
structure Invocation where
  source : Text
  maxTokens : Bound
  maxLineLength : Option Bound
  rejectUnsupported : Bool
  explain : Bool
  /-- Whether an invalid statement shows in the exit status. -/
  strict : Bool
deriving DecidableEq, Repr

/-- How the lines of the source are checked, where so many tokens of each are. -/
def Invocation.checkOptions (i : Invocation) (maxTokens : Nat) : CheckOptions where
  maxTokens := maxTokens
  rejectUnsupported := i.rejectUnsupported
  explain := i.explain

def Request.invocation (r : Request) : Except UsageError Invocation :=
  if r.extras ≠ [] then .error (.unrecognized r.extras)
  else if r.referenceLimits && (r.maxTokens.isSome || r.maxLineLength.isSome) then
    .error .conflictingLimits
  else .ok {
    source := r.source.getD defaultSource
    maxTokens := r.maxTokens.getD (.number defaultTokenLimit)
    maxLineLength :=
      if r.referenceLimits then some (.number referenceLineLength) else r.maxLineLength
    rejectUnsupported := r.rejectUnsupported
    explain := r.explain
    strict := r.strict }

/-- The run that arguments ask for. -/
def Invocation.ofArguments (args : List Text) : Except Stop Invocation :=
  match Argument.sortAll args with
  | .error a => .error (.usage (.ambiguous a))
  | .ok sorted =>
    match ({} : Request).read sorted with
    | .error e => .error e
    | .ok r => r.invocation.mapError .usage

end AsmLint
