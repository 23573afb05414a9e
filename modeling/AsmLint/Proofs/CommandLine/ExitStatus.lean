import AsmLint.Proofs.CommandLine.Given
import AsmLint.Proofs.CommandLine.LineSource
import AsmLint.Proofs.Report.Blocks

/-!
# Exit statuses

The arguments alone decide whether a command is rejected, and then nothing else is looked at. A
source that cannot be opened is all that the command tells. A source that is read to its end is
reported, and the status says no more than the report: it is 1 only for a strict command, and then
just when a line of the report is on an error.
-/

namespace AsmLint

/-! ### Errors in a report -/

lemma exists_error_iff (v : Verdict) (number : Int) :
    (∃ line ∈ v.report number, errorLead <+: line) ↔ v.isValid = false := by
  unfold Verdict.report
  cases hv : v.isValid with
  | true => simp [not_errorLead_validLine]
  | false =>
    have hne : v.violations ≠ [] := by simpa [Verdict.isValid] using hv
    obtain ⟨x, xs, hx⟩ := List.exists_cons_of_ne_nil hne
    simp [hx, errorLead_errorLine]

/-- Whether a line of the report is on an error. -/
def Outcome.ReportsError {κ : Type} (o : Outcome κ) : Prop :=
  ∃ line ∈ o.out.splitOn '\n', errorLead <+: line

/-- The totals count an invalid line just when a line of the report is on an error. -/
lemma invalid_ne_zero_iff {ε : Type} (o : CheckOptions) {lines : List Text}
    (h : ∀ line ∈ lines, Unbroken line) (ending : Ending ε) :
    let r : Run ε := ⟨lineBlocks o 1 lines, ending⟩
    r.summary.invalid ≠ 0 ↔ ∃ line ∈ r.out.splitOn '\n', errorLead <+: line := by
  intro r
  have hblock : ∀ b ∈ r.blocks,
      (∃ line ∈ b.report, errorLead <+: line) ↔ b.isValid = false := by
    intro b hb
    obtain ⟨x, -, rfl⟩ := List.mem_map.mp hb
    exact exists_error_iff _ _
  rw [(splitOn_lineBlocks o h ending).1]
  constructor
  · intro hinvalid
    obtain ⟨b, hb, hvalid⟩ := List.countP_pos_iff.mp (Nat.pos_of_ne_zero hinvalid)
    obtain ⟨line, hline, hlead⟩ := (hblock b hb).mpr (by simpa using hvalid)
    exact ⟨line, List.mem_append_left _ (List.mem_flatMap.mpr ⟨b, hb, hline⟩), hlead⟩
  · rintro ⟨line, hline, hlead⟩
    rcases List.mem_append.mp hline with hline | hline
    · obtain ⟨b, hb, hline⟩ := List.mem_flatMap.mp hline
      have hvalid : b.isValid = false := (hblock b hb).mp ⟨line, hline, hlead⟩
      exact (List.countP_pos_iff.mpr ⟨b, hb, by simp [hvalid]⟩).ne'
    · -- behind the last line feed stands nothing
      rw [List.mem_singleton.mp hline] at hlead
      exact absurd hlead (by decide)

/-! ### Runs -/

namespace Invocation

variable {i : Invocation}

lemma exit_of_finished {o : CheckOptions} (ho : 1 ≤ o.maxTokens) {lines : List Text}
    (h : ∀ line ∈ lines, Unbroken line) :
    let outcome := i.conclude (Feed.check o ⟨lines, none⟩)
    (outcome.exit = .status 1 ↔ i.strict = true ∧ outcome.ReportsError) ∧
      (outcome.exit = .status 0 ↔ ¬(i.strict = true ∧ outcome.ReportsError)) := by
  intro outcome
  have hrun : (Feed.check o ⟨lines, none⟩ : Run SystemError) = ⟨lineBlocks o 1 lines, .finished⟩ :=
    Feed.check_unbroken ho h
  have herror : outcome.ReportsError ↔
      (⟨lineBlocks o 1 lines, .finished⟩ : Run SystemError).summary.invalid ≠ 0 := by
    simp only [outcome, hrun]
    exact (invalid_ne_zero_iff o h .finished).symm
  rw [herror]
  simp only [outcome, hrun, conclude]
  split_ifs with hstatus <;> simpa using hstatus

/-- A source that is closed is told of, and there is nothing else to tell. -/
lemma run_closed {w : Workspace} {reason : Text} (hsource : i.source ≠ standardInput)
    (h : w.Closed i.source reason) (stdin : Feed SystemError) :
    i.run (i.openIn w stdin) =
      ⟨.status 1, [],
        "Error: Could not open file '" ++ i.source ++ "': " ++ reason ++ ['\n']⟩ := by
  obtain ⟨u, hu, hpath, hreason⟩ := Workspace.closed_iff.mp h
  have hopen : i.openIn w stdin = .error u := by
    rw [openIn, if_neg hsource]
    exact hu
  have hmessage : unlines [openFailure u] =
      "Error: Could not open file '" ++ u.path ++ "': " ++ u.why.reason ++ ['\n'] := by
    unfold openFailure
    rw [unlines_cons, unlines_nil]
  rw [hopen, ← hpath, ← hreason, ← hmessage]
  rfl

/-- A source can be opened just when it is standard input or not closed. -/
lemma exists_openIn_iff (i : Invocation) (w : Workspace) (stdin : Feed SystemError) :
    (∃ f, i.openIn w stdin = .ok f) ↔
      ¬(i.source ≠ standardInput ∧ ∃ reason, w.Closed i.source reason) := by
  unfold openIn
  by_cases hsource : i.source = standardInput
  · simp [hsource]
  · simp only [ne_eq, hsource, not_false_eq_true, true_and, Workspace.closed_iff]
    cases hs : w.sourceAt i.source with
    | ok f => simp
    | error u => simp [Workspace.path_of_sourceAt hs]

end Invocation

/-! ### Commands -/

/-- What the exit status and the channels of a command tell. -/
structure Outcome.Tells (args : List Text) (w : Workspace) (stdin : Feed SystemError)
    (o : Outcome Crash) : Prop where
  /-- Rejected arguments are told of in the same way whatever there is to check. -/
  rejected : ∀ e, Invocation.ofArguments args = .error (.usage e) →
    o.exit = .status 2 ∧ o.out = [] ∧ ∀ w' stdin', Outcome.ofCommand args w' stdin' = o
  /-- The reference limits together with a limit are rejected, wherever the two options stand. -/
  conflicting : (Switch.flag .referenceLimits).GivenIn args → ∀ l, (Switch.limit l).GivenIn args →
    ¬AsksForHelp args → ∃ e, Invocation.ofArguments args = .error (.usage e)
  /-- A source that can be opened is not closed, and any other is. -/
  opened : ∀ i, Invocation.ofArguments args = .ok i →
    ((∃ f, i.openIn w stdin = .ok f) ↔
      ¬(i.source ≠ standardInput ∧ ∃ reason, w.Closed i.source reason))
  /-- Of a closed source one message is all that is told. -/
  closed : ∀ i reason, Invocation.ofArguments args = .ok i → i.source ≠ standardInput →
    w.Closed i.source reason →
    o = ⟨.status 1, [], "Error: Could not open file '" ++ i.source ++ "': " ++ reason ++ ['\n']⟩
  /-- A source of bytes does not fail, and its raw lines hold no terminator but at their ends. -/
  bytes : ∀ content, (Feed.ofBytes content).failure = none ∧
    ∀ raw ∈ (Feed.ofBytes content).lines, IsRawLine raw
  /-- After a source that ends the status is 1 for a strict command with an error in its report, and
  else 0, unless a limit is asked for that is set to nothing. -/
  ended : ∀ i f, Invocation.ofArguments args = .ok i → i.openIn w stdin = .ok f →
    f.failure = none → (∀ raw ∈ f.lines, IsRawLine raw) → ¬i.UsesNothing f.lines →
    (o.exit = .status 1 ↔ (Switch.flag .strict).GivenIn args ∧ o.ReportsError) ∧
      (o.exit = .status 0 ↔ ¬((Switch.flag .strict).GivenIn args ∧ o.ReportsError))
  /-- A limit that is set to nothing makes the command crash as soon as it is asked for. -/
  crashed : ∀ i f, Invocation.ofArguments args = .ok i → i.openIn w stdin = .ok f →
    (∀ raw ∈ f.lines, IsRawLine raw) → i.UsesNothing f.lines →
    o = ⟨.crash .limitNotNumber, [], []⟩

/-- Whatever the arguments are and whatever there is to check, a command tells how it went. -/
theorem Outcome.ofCommand_tells (args : List Text) (w : Workspace) (stdin : Feed SystemError) :
    (Outcome.ofCommand args w stdin).Tells args w stdin where
  rejected e he := by
    have hall : ∀ w' stdin', Outcome.ofCommand args w' stdin' = Stop.outcome (.usage e) := by
      intro w' stdin'
      rw [Outcome.ofCommand, he]
    rw [hall]
    exact ⟨rfl, rfl, hall⟩
  conflicting hreference l hl hhelp :=
    Invocation.exists_usage (fun i hi => Invocation.not_conflicting hi hreference l hl) hhelp
  opened i _ := i.exists_openIn_iff w stdin
  closed i reason hi hsource hclosed := by
    rw [← Invocation.run_closed hsource hclosed stdin, Outcome.ofCommand, hi]
  bytes content := ⟨rfl, fun raw hraw => isRawLine_of_mem_rawLines hraw⟩
  ended i f hi hopen hfailure hlines hnumber := by
    obtain ⟨lines, failure⟩ := f
    obtain rfl : failure = none := hfailure
    rw [Invocation.ofCommand_opened hi hopen, ← Invocation.strict_iff hi]
    rcases Invocation.run_cases (Invocation.positive_maxTokens hi) hlines with
      ⟨hnothing, -⟩ | ⟨-, options, cut, hoptions, hcut, -, hrun⟩
    · exact absurd hnothing hnumber
    · rw [hrun]
      exact Invocation.exit_of_finished hoptions hcut
  crashed i f hi hopen hlines hnothing := by
    rw [Invocation.ofCommand_opened hi hopen]
    rcases Invocation.run_cases (Invocation.positive_maxTokens hi) hlines with
      ⟨-, hrun⟩ | ⟨hnumber, -⟩
    · exact hrun i.source f.failure
    · exact absurd hnothing hnumber

/-- A limit that is set to nothing: a file of no bytes can be opened and has no line, and the
command has no status. -/
theorem Outcome.ofCommand_tells_crash :
    let args : List Text := ["--max-line-length=--", "a.txt"]
    let i : Invocation := ⟨"a.txt", .number 10, some .nothing, false, false, false⟩
    let w : Workspace := ⟨[], [(["a.txt"], .file (.bytes []))], by simp⟩
    Invocation.ofArguments args = .ok i ∧ i.openIn w ⟨[], none⟩ = .ok ⟨[], none⟩ ∧
      Outcome.ofCommand args w ⟨[], none⟩ = ⟨.crash .limitNotNumber, [], []⟩ := by
  decide

end AsmLint
