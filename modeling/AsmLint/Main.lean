import AsmLint.CommandLine.Outcome

/-!
# The command

Reads the source that the arguments name, runs the checker on it, and writes what it leaves on the
two channels.
-/

namespace AsmLint

/-- Why a file is unavailable when opening or reading it fails. -/
def Unavailability.ofFailure : IO.Error → Unavailability
  | .noFileOrDirectory .. => .missing
  | .inappropriateType .. => .notRegular
  | .permissionDenied .. => .unreadable
  | e => .system (.described (toString e))

/-- The source of an invocation, as far as it can be opened. -/
def Invocation.openOnDisk (i : Invocation) : IO (Except Unavailable (Feed SystemError)) := do
  if i.source = standardInput then
    try
      return .ok (.ofBytes (← (← IO.getStdin).readBinToEnd).toList)
    catch e =>
      return .ok ⟨[], some (.described (toString e))⟩
  else
    try
      return .ok (.ofBytes (← IO.FS.readBinFile (String.ofList i.source)).toList)
    catch e =>
      return .error ⟨i.source, .ofFailure e⟩

/-- Writes what the checker left, and gives its exit status. -/
def Outcome.present (o : Outcome Crash) : IO UInt32 := do
  IO.print (String.ofList o.out)
  IO.eprint (String.ofList o.err)
  match o.exit with
  | .status n => return n.toUInt32
  | .crash c =>
    IO.eprintln (String.ofList c.message)
    return 1

end AsmLint

open AsmLint in
def main (args : List String) : IO UInt32 := do
  match Invocation.ofArguments (args.map String.toList) with
  | .error stop => stop.outcome.present
  | .ok i => (i.run (← i.openOnDisk)).present
