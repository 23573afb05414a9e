import AsmLint.CommandLine.Outcome
import AsmLint.Proofs.Check
import AsmLint.Proofs.CommandLine.Request
import AsmLint.Proofs.Source.Opening

/-!
# Commands on sources of lines

Once a source is open a command either crashes at once, over a limit that is set to nothing, or it
checks unbroken lines up to the end of the source or to its failure. What it writes before the
failure is what it would have written had the source ended there; the message on the failure comes
last.
-/

namespace AsmLint

namespace Invocation

variable {i : Invocation} {lines : List Text}

/-- Whether a limit that is set to nothing is asked for while lines are checked: that on the length
of lines always is, that on the number of tokens only in a line. -/
def UsesNothing (i : Invocation) (lines : List Text) : Prop :=
  i.maxLineLength = some .nothing ∨ i.maxTokens = .nothing ∧ lines ≠ []

/-- Lines that are cut to their length are checked as some lines, whatever their source is called
and whatever comes behind them. -/
lemma check_cases (hi : i.maxTokens.Positive) (lines : List Text) :
    (i.maxTokens = .nothing ∧ lines ≠ [] ∧
        ∀ s failure, check { i with source := s } ⟨lines, failure⟩ =
          ⟨.crash .limitNotNumber, [], []⟩) ∨
      (¬(i.maxTokens = .nothing ∧ lines ≠ []) ∧
        ∃ o : CheckOptions, 1 ≤ o.maxTokens ∧
          ∀ s failure, check { i with source := s } ⟨lines, failure⟩ =
            conclude { i with source := s } (Feed.check o ⟨lines, failure⟩)) := by
  obtain ⟨source, maxTokens, maxLineLength, reject, explain, strict⟩ := i
  cases maxTokens with
  | number n =>
    have hn : 1 ≤ (n : Int) := Int.ofNat_le.mpr (hi n rfl)
    exact .inr ⟨by simp, ⟨n, reject, explain⟩, hn, fun s failure => rfl⟩
  | nothing =>
    cases lines with
    | nil => exact .inr ⟨by simp, {}, by decide, fun s failure => rfl⟩
    | cons line lines => exact .inl ⟨rfl, List.cons_ne_nil _ _, fun s failure => rfl⟩

lemma exists_limit (h : i.maxLineLength ≠ some .nothing) :
    ∃ limit, ∀ s lines failure,
      run { i with source := s } (.ok ⟨lines, failure⟩) =
        check { i with source := s } ⟨lines.map (statementLine limit), failure⟩ := by
  obtain ⟨source, maxTokens, maxLineLength, reject, explain, strict⟩ := i
  cases maxLineLength with
  | none => exact ⟨none, fun _ _ _ => rfl⟩
  | some b =>
    cases b with
    | number n => exact ⟨some n, fun _ _ _ => rfl⟩
    | nothing => exact absurd rfl h

/-- A run over an open source crashes at once, or it checks as many unbroken lines as the source has
raw lines; which of both, and which lines, depends neither on what the source is called nor on how
it ends. -/
theorem run_cases (hi : i.maxTokens.Positive) (hlines : ∀ raw ∈ lines, IsRawLine raw) :
    (i.UsesNothing lines ∧
        ∀ s failure, run { i with source := s } (.ok ⟨lines, failure⟩) =
          ⟨.crash .limitNotNumber, [], []⟩) ∨
      (¬i.UsesNothing lines ∧
        ∃ (o : CheckOptions) (cut : List Text), 1 ≤ o.maxTokens ∧ (∀ line ∈ cut, Unbroken line) ∧
          cut.length = lines.length ∧
          ∀ s failure, run { i with source := s } (.ok ⟨lines, failure⟩) =
            conclude { i with source := s } (Feed.check o ⟨cut, failure⟩)) := by
  by_cases hlength : i.maxLineLength = some .nothing
  · refine .inl ⟨.inl hlength, fun s failure => ?_⟩
    simp only [run, hlength]
  obtain ⟨limit, hrun⟩ := exists_limit hlength
  have hnil : lines.map (statementLine limit) ≠ [] ↔ lines ≠ [] := by simp
  rcases check_cases hi (lines.map (statementLine limit)) with
    ⟨htokens, hne, hcheck⟩ | ⟨hnumber, o, ho, hcheck⟩
  · refine .inl ⟨.inr ⟨htokens, hnil.mp hne⟩, fun s failure => ?_⟩
    rw [hrun, hcheck]
  · rw [hnil] at hnumber
    refine .inr ⟨not_or.mpr ⟨hlength, hnumber⟩, o, lines.map (statementLine limit), ho,
      ?_, List.length_map _, fun s failure => ?_⟩
    · intro line hline
      obtain ⟨raw, hraw, rfl⟩ := List.mem_map.mp hline
      exact (hlines raw hraw).unbroken limit
    · rw [hrun, hcheck]

lemma ofCommand_opened {args : List Text} (hargs : ofArguments args = .ok i) {w : Workspace}
    {stdin f : Feed SystemError} (hopen : i.openIn w stdin = .ok f) :
    Outcome.ofCommand args w stdin = i.run (.ok f) := by
  rw [Outcome.ofCommand, hargs]
  exact congrArg i.run hopen

end Invocation

/-! ### Failures -/

/-- What a command leaves whose source fails behind some raw lines: what the same command leaves
where the source ends there, and then a message that names the source and tells the failure. The
only way out is a limit that is set to nothing, over which both commands crash. -/
theorem Outcome.ofCommand_read_failure {args : List Text} {i : Invocation}
    (hargs : Invocation.ofArguments args = .ok i) {lines : List Text}
    (hlines : ∀ raw ∈ lines, IsRawLine raw) (e : SystemError) {w w' : Workspace}
    {stdin stdin' : Feed SystemError} (hfails : i.openIn w stdin = .ok ⟨lines, some e⟩)
    (hends : i.openIn w' stdin' = .ok ⟨lines, none⟩) :
    let failed := Outcome.ofCommand args w stdin
    let ended := Outcome.ofCommand args w' stdin'
    let what : Text :=
      if i.source = standardInput then "standard input" else "file '" ++ i.source ++ "'"
    let text := (e.strerror?.filter (· ≠ [])).getD e.message
    (¬i.UsesNothing lines →
        failed.exit = .status 1 ∧ (∃ status, ended.exit = .status status) ∧
          failed.out = ended.out ∧
          failed.err = ended.err ++ ("Error: Could not read " ++ what ++ ": " ++ text ++ ['\n'])) ∧
      (i.UsesNothing lines →
        failed = ⟨.crash .limitNotNumber, [], []⟩ ∧ ended = ⟨.crash .limitNotNumber, [], []⟩) := by
  intro failed ended what text
  have hfailed : failed = i.run (.ok ⟨lines, some e⟩) := Invocation.ofCommand_opened hargs hfails
  have hended : ended = i.run (.ok ⟨lines, none⟩) := Invocation.ofCommand_opened hargs hends
  rcases Invocation.run_cases (Invocation.positive_maxTokens hargs) hlines with
    ⟨hnothing, hrun⟩ | ⟨hnumber, o, cut, ho, hcut, -, hrun⟩
  · refine ⟨fun h => absurd hnothing h, fun _ => ?_⟩
    rw [hfailed, hended, hrun, hrun]
    exact ⟨rfl, rfl⟩
  · refine ⟨fun _ => ?_, fun h => absurd h hnumber⟩
    rw [hfailed, hended, hrun, hrun, Feed.check_unbroken ho (f := ⟨cut, some e⟩) hcut,
      Feed.check_unbroken ho (f := ⟨cut, none⟩) hcut]
    have hmessage : unlines [i.readFailure e] =
        "Error: Could not read " ++ what ++ ": " ++ text ++ ['\n'] := by
      unfold Invocation.readFailure
      rw [SystemError.reason_eq, unlines_cons, unlines_nil]
      rfl
    refine ⟨rfl, ⟨_, rfl⟩, rfl, ?_⟩
    rw [← hmessage]
    rfl

/-- A file that fails without a reason behind a line that ends and one that does not. -/
theorem Outcome.ofCommand_read_failure_unended :
    let args : List Text := ["--strict", "--explain", "a.txt"]
    let i : Invocation := ⟨"a.txt", .number 10, none, false, true, true⟩
    let lines : List Text := ["STOP\r\n", "LOOP ADD"]
    let w (failure : Option SystemError) : Workspace :=
      ⟨[], [(["a.txt"], .file (.delivers ⟨lines, failure⟩))], by simp⟩
    let failed := Outcome.ofCommand args (w (some (.numbered 5 []))) ⟨[], none⟩
    let ended := Outcome.ofCommand args (w none) ⟨[], none⟩
    Invocation.ofArguments args = .ok i ∧ (∀ raw ∈ lines, IsRawLine raw) ∧
      (∀ failure, i.openIn (w failure) ⟨[], none⟩ = .ok ⟨lines, failure⟩) ∧
      ¬i.UsesNothing lines ∧ failed.exit = .status 1 ∧ failed.out = ended.out ∧
      failed.err = ended.err ++ "Error: Could not read file 'a.txt': [Errno 5] \n" := by
  intro args i lines w failed ended
  have hargs : Invocation.ofArguments args = .ok i := rfl
  have hlines : ∀ raw ∈ lines, IsRawLine raw := by
    intro raw hraw
    rcases List.mem_pair.mp hraw with rfl | rfl
    · exact ⟨"STOP", "\r\n", by decide, .inr (.crlf []), rfl⟩
    · exact ⟨"LOOP ADD", [], by decide, .inl rfl, rfl⟩
  have hopen : ∀ failure, i.openIn (w failure) ⟨[], none⟩ = .ok ⟨lines, failure⟩ := fun _ => rfl
  have hnumber : ¬i.UsesNothing lines := by simp [Invocation.UsesNothing, i]
  obtain ⟨hexit, -, hout, herr⟩ :=
    (Outcome.ofCommand_read_failure hargs hlines (.numbered 5 []) (hopen _) (hopen _)).1 hnumber
  exact ⟨hargs, hlines, hopen, hnumber, hexit, hout, herr⟩

/-- A limit that is set to nothing: the command crashes where the failure ought to be told. -/
theorem Outcome.ofCommand_read_failure_untold :
    let w : Workspace :=
      ⟨[], [(["a.txt"], .file (.delivers ⟨[], some (.numbered 5 "Input/output error")⟩))], by simp⟩
    Outcome.ofCommand ["--max-line-length=--", "a.txt"] w ⟨[], none⟩ =
      ⟨.crash .limitNotNumber, [], []⟩ := by
  decide

end AsmLint
