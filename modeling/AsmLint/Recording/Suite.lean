import AsmLint.CommandLine.Outcome
import AsmLint.Recording.Comparison
import AsmLint.Recording.Directory
import AsmLint.Recording.Expected

/-!
# Replaying recorded reports

A test passes when the checker, run on it as a program of its own, exits with status 0 and writes
the report that is recorded beside the test, if one is. A suite runs every test in a directory, says
of each whether it passed, and ends with a summary.
-/

namespace AsmLint

/-! ### One test -/

/-- What becomes of starting the checker. -/
inductive Launch where
  | ready
  /-- There is no program of that name to interpret. -/
  | programMissing
  /-- There is nothing at the path of what is to interpret the program. -/
  | interpreterMissing (path : Text)
deriving DecidableEq, Repr

inductive TestFailure where
  | notStarted (path : Text)
  | exitStatus (code : Nat)
  | differs (d : Difference)
deriving DecidableEq, Repr

def TestFailure.message : TestFailure → Text
  | notStarted path =>
    "could not run checker: [Errno 2] No such file or directory: " ++ quoted path
  | exitStatus code => "exit " ++ decimal code
  | differs d => d.message

/-- A fault that a suite does not handle. -/
inductive SuiteFault where
  | unread (e : ReadingError)
  /-- The path of a test cannot be handed to a program. -/
  | embeddedNul
  | directory (e : DirectoryError)
deriving DecidableEq, Repr

def SuiteFault.message : SuiteFault → Text
  | unread e => e.message
  | embeddedNul => "embedded null byte"
  | directory e => e.message

/-- The status with which a program exits; a crash is the status 1. -/
def Exit.code {κ : Type} : Exit κ → Nat
  | status n => n
  | crash _ => 1

namespace Workspace

/-- What the checker leaves when it is run on a test as a program of its own, without any input. -/
def checkTest (w : Workspace) (test : Text) : Outcome Crash :=
  Outcome.ofCommand [test] w ⟨[], none⟩

/-- Whether a report is the one that is recorded for a test, if one is. -/
def replay (w : Workspace) (test report : Text) : Except ReadingError (Option TestFailure) :=
  (w.expectedReport test).map fun
    | none => none
    | some expected => (Difference.ofReports expected report).map .differs

/-- Runs a test; nothing is said of one that passes. -/
def testFailure (w : Workspace) (launch : Launch) (test : Text) :
    Except SuiteFault (Option TestFailure) :=
  if test.contains '\x00' then .error .embeddedNul
  else
    match launch with
    | .interpreterMissing path => .ok (some (.notStarted path))
    | .programMissing => .ok (some (.exitStatus 2))
    | .ready =>
      let outcome := w.checkTest test
      if outcome.exit.code ≠ 0 then .ok (some (.exitStatus outcome.exit.code))
      else (w.replay test outcome.out).mapError .unread

end Workspace

/-! ### A suite -/

namespace Suite

structure Result where
  name : Text
  failure : Option TestFailure
deriving DecidableEq, Repr

def Result.line (r : Result) : Text :=
  "Test " ++ r.name ++ ": " ++
    match r.failure with
    | none => "PASSED"
    | some f => "FAILED (" ++ f.message ++ ")"

/-- The results of tests in a directory, up to the first fault. -/
def results (w : Workspace) (directory : Text) : List Text → List Result × Option SuiteFault
  | [] => ([], none)
  | name :: rest =>
    match w.testFailure .ready (Path.join directory name) with
    | .error e => ([], some e)
    | .ok failure =>
      let later := results w directory rest
      (⟨name, failure⟩ :: later.1, later.2)

def failed (rs : List Result) : List Result := rs.filter (·.failure.isSome)

def summary (rs : List Result) : List Text :=
  if failed rs = [] then
    ["", "All " ++ decimal rs.length ++ " tests passed successfully."]
  else
    "" :: (decimal (failed rs).length ++ " out of " ++ decimal rs.length ++ " tests failed:") ::
      (failed rs).map fun r => " - " ++ r.name

/-- What comes of the results of at least one test. -/
def conclude (rs : List Result) : Option SuiteFault → Outcome SuiteFault
  | some e => ⟨.crash e, unlines (rs.map Result.line), []⟩
  | none =>
    ⟨.status (if failed rs = [] then 0 else 1), unlines (rs.map Result.line ++ summary rs), []⟩

/-- The directory in which a program stands, given the path under which it was started. -/
def programDirectory (home : Location) (program : Text) : Text :=
  Path.directory (Path.absolute home program)

/-- The path of the checker, which stands beside the program that runs the suite. -/
def checkerPath (home : Location) (program : Text) : Text :=
  Path.join (programDirectory home program) "checker.py"

/-- The path of the tests that stand beside the program. -/
def defaultTests (home : Location) (program : Text) : Text :=
  Path.join (programDirectory home program) "tests/golden"

def runDirectory (program : Text) (w : Workspace) (directory : Text) : Outcome SuiteFault :=
  let checker := checkerPath w.home program
  if !w.isDirectory directory then
    ⟨.status 1, unlines ["Error: " ++ directory ++ " is not a directory"], []⟩
  else if !w.isFile checker then
    ⟨.status 1, unlines ["Error: could not find checker.py at " ++ checker], []⟩
  else
    match w.testNames directory with
    | .error e => ⟨.crash (.directory e), [], []⟩
    | .ok [] => ⟨.status 0, unlines ["No .txt test files found in " ++ directory], []⟩
    | .ok names =>
      let (rs, fault) := results w directory names
      conclude rs fault

/-- Runs a suite: at most one directory may be named, and the tests beside the program are the
default. A relative path begins at the home directory, wherever the program stands. -/
def run (program : Text) (args : List Text) (w : Workspace) : Outcome SuiteFault :=
  match args with
  | [] => runDirectory program w (Path.absolute w.home (defaultTests w.home program))
  | [directory] => runDirectory program w (Path.absolute w.home directory)
  | _ => ⟨.status 1, unlines ["Usage: python3 " ++ program ++ " [tests_directory]"], []⟩

end Suite

end AsmLint
