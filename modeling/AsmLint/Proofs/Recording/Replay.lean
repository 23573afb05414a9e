import AsmLint.Proofs.CommandLine.SoleArgument
import AsmLint.Proofs.Recording.Directory
import AsmLint.Proofs.Recording.Comparison
import AsmLint.Proofs.CommandLine.LineSource
import AsmLint.Proofs.Source.Bytes
import AsmLint.Proofs.Text.StrictReading
import AsmLint.Recording.Suite

/-!
# Tests that are run

A test whose path is a word is checked with the default options. The checker ends with status 0 on
any bytes, and then the recorded report decides: the test passes if the report holds what the
checker writes, and what becomes of the test is lost if the report cannot be read.
-/

namespace AsmLint

/-! ### Expected reports -/

/-- Whether a file is read as a text: it holds the bytes of it, or delivers it without a failure. -/
inductive StoredFile.Holds : StoredFile → Text → Prop
  | bytes (t : Text) : Holds (.bytes (Utf8.encode t)) t
  | delivers (lines : List Text) : Holds (.delivers ⟨lines, none⟩) lines.flatten

lemma mapError_eq_ok {ε ε' α : Type} {x : Except ε α} {f : ε → ε'} {a : α} :
    x.mapError f = .ok a ↔ x = .ok a := by
  cases x <;> simp [Except.mapError]

lemma mapError_eq_error {ε ε' α : Type} {x : Except ε α} {f : ε → ε'} {e : ε'} :
    x.mapError f = .error e ↔ ∃ d, x = .error d ∧ f d = e := by
  cases x <;> simp [Except.mapError]

lemma StoredFile.text_eq_ok {f : StoredFile} {path t : Text} : f.text path = .ok t ↔ f.Holds t := by
  constructor
  · intro h
    cases f with
    | bytes content =>
      rw [text, mapError_eq_ok, Utf8.decodeStrict?_eq_ok_iff] at h
      rw [h]
      exact .bytes t
    | unreadable | unopenable e => cases h
    | delivers feed =>
      obtain ⟨lines, _ | e⟩ := feed
      · obtain rfl := Except.ok.inj h
        exact .delivers lines
      · cases h
  · rintro (_ | _)
    · rw [text, mapError_eq_ok, Utf8.decodeStrict?_eq_ok_iff]
    · rfl

/-- A file that is read as no text is an error: that it is not UTF-8 just if it holds bytes. -/
lemma StoredFile.text_eq_error {f : StoredFile} (h : ∀ t, ¬f.Holds t) (path : Text) :
    ∃ e, f.text path = .error e ∧ ((∃ content, f = .bytes content) ↔ ∃ d, e = .undecodable d) := by
  cases htext : f.text path with
  | ok t => exact absurd (text_eq_ok.mp htext) (h t)
  | error e =>
    refine ⟨e, rfl, ?_⟩
    cases f with
    | bytes content =>
      obtain ⟨d, -, rfl⟩ := mapError_eq_error.mp htext
      exact iff_of_true ⟨content, rfl⟩ ⟨d, rfl⟩
    | unreadable | unopenable =>
      cases htext
      exact iff_of_false nofun nofun
    | delivers feed =>
      obtain ⟨lines, _ | failure⟩ := feed <;> cases htext
      exact iff_of_false nofun nofun

namespace Workspace

variable {w : Workspace} {test : Text}

/-- Whether a report is recorded for a test that cannot be read as any text. -/
def Unread (w : Workspace) (test : Text) : Prop :=
  ∃ f, w.file? (expectedPath test) = some f ∧ ∀ t, ¬f.Holds t

lemma expectedReport_of_file? {f : StoredFile} (h : w.file? (expectedPath test) = some f) :
    w.expectedReport test =
      (f.text (expectedPath test)).map fun t => some (unifyTerminators t) := by
  rw [expectedReport, h]

lemma expectedReport_of_holds {f : StoredFile} (h : w.file? (expectedPath test) = some f) {t : Text}
    (ht : f.Holds t) : w.expectedReport test = .ok (some (unifyTerminators t)) := by
  rw [expectedReport_of_file? h, StoredFile.text_eq_ok.mpr ht]
  rfl

/-- A report without carriage returns is read as it was written. -/
lemma expectedReport_recorded {report : Text}
    (h : w.file? (expectedPath test) = some (.bytes (Utf8.encode report)))
    (hreturn : '\r' ∉ report) :
    w.expectedReport test = .ok (some report) := by
  rw [expectedReport_of_holds h (.bytes report), unifyTerminators_eq_self hreturn]

lemma expectedReport_of_not_holds {f : StoredFile} (h : w.file? (expectedPath test) = some f)
    (hnone : ∀ t, ¬f.Holds t) :
    ∃ e, w.expectedReport test = .error e ∧
      ((∃ content, f = .bytes content) ↔ ∃ d, e = .undecodable d) := by
  obtain ⟨e, he, hkind⟩ := StoredFile.text_eq_error hnone (expectedPath test)
  refine ⟨e, ?_, hkind⟩
  rw [expectedReport_of_file? h, he]
  rfl

lemma expectedReport_cases (w : Workspace) (test : Text) :
    (w.Unread test ∧ ∃ e, w.expectedReport test = .error e) ∨
      (¬w.Unread test ∧ ∃ expected, w.expectedReport test = .ok expected) := by
  by_cases hunread : w.Unread test
  · obtain ⟨f, hfile, hnone⟩ := hunread
    obtain ⟨e, he, -⟩ := expectedReport_of_not_holds hfile hnone
    exact .inl ⟨⟨f, hfile, hnone⟩, e, he⟩
  · refine .inr ⟨hunread, ?_⟩
    cases hfile : w.file? (expectedPath test) with
    | none => exact ⟨none, by rw [expectedReport, hfile]⟩
    | some f =>
      obtain ⟨t, ht⟩ : ∃ t, f.Holds t := by
        by_contra hnone
        exact hunread ⟨f, hfile, not_exists.mp hnone⟩
      exact ⟨_, expectedReport_of_holds hfile ht⟩

end Workspace

/-! ### Runs with the default options -/

/-- The report on bytes that are checked with the default options. -/
def defaultReport (content : List UInt8) : Text :=
  (Feed.check {} ((Feed.ofBytes content).cut none)).out

lemma carriageReturn_notMem_defaultReport (content : List UInt8) : '\r' ∉ defaultReport content :=
  Feed.carriageReturn_notMem_out _ _

namespace Invocation

/-- A run with the default options ends, and it writes the report. -/
lemma run_ofSource (source : Text) (content : List UInt8) :
    ∃ err, (ofSource source).run (.ok (.ofBytes content)) =
      ⟨.status 0, defaultReport content, err⟩ := by
  have hlines : ∀ line ∈ ((Feed.ofBytes content).cut none).lines, Unbroken line := by
    rw [Feed.cut_none_ofBytes]
    exact fun line => unbroken_of_mem_cutLines
  have hrun : (Feed.check {} ((Feed.ofBytes content).cut none)).ending = .finished := by
    rw [Feed.check_unbroken (by decide) hlines]
    rfl
  refine ⟨(Feed.check {} ((Feed.ofBytes content).cut none)).err, ?_⟩
  change (ofSource source).conclude (Feed.check {} ((Feed.ofBytes content).cut none)) = _
  rw [conclude, hrun]
  rfl

lemma source_ofSource_ne {path : Text} (htest : isTestName path) :
    (ofSource path).source ≠ standardInput := by
  rintro (rfl : path = standardInput)
  exact absurd htest (by decide)

lemma openIn_ofSource {path : Text} (htest : isTestName path) {w : Workspace} {f : StoredFile}
    (hfile : w.file? path = some f) (stdin : Feed SystemError) :
    (ofSource path).openIn w stdin = f.feed.mapError (⟨path, ·⟩) := by
  rw [openIn, if_neg (source_ofSource_ne htest)]
  exact w.sourceAt_of_file? hfile

end Invocation

namespace Outcome

variable {args : List Text} {path : Text} {w : Workspace}

/-- A command that asks for nothing but a source opens the file. -/
lemma ofCommand_ofSource (htest : isTestName path)
    (hargs : Invocation.ofArguments args = .ok (.ofSource path)) {f : StoredFile}
    (hfile : w.file? path = some f) (stdin : Feed SystemError) :
    ofCommand args w stdin = (Invocation.ofSource path).run (f.feed.mapError (⟨path, ·⟩)) := by
  rw [ofCommand, hargs, ← Invocation.openIn_ofSource htest hfile stdin]

/-- A command that asks for nothing but a source of bytes writes the report on them. -/
lemma ofCommand_content (htest : isTestName path)
    (hargs : Invocation.ofArguments args = .ok (.ofSource path)) {content : List UInt8}
    (hfile : w.file? path = some (.bytes content)) (stdin : Feed SystemError) :
    ∃ err, ofCommand args w stdin = ⟨.status 0, defaultReport content, err⟩ := by
  rw [ofCommand_ofSource htest hargs hfile stdin]
  exact Invocation.run_ofSource path content

end Outcome

/-! ### Tests -/

namespace Workspace

variable {w : Workspace} {test : Text}

/-- The path of a file can be handed to a program. -/
lemma not_contains_nul {f : StoredFile} (hfile : w.file? test = some f) :
    ¬test.contains '\x00' := by
  simpa using (file?_eq_some.mp hfile).1.noNul

/-- A test is checked, and then its recorded report decides. -/
lemma testFailure_ready {f : StoredFile} (hfile : w.file? test = some f) :
    w.testFailure .ready test =
      if (w.checkTest test).exit.code ≠ 0 then .ok (some (.exitStatus (w.checkTest test).exit.code))
      else (w.replay test (w.checkTest test).out).mapError .unread :=
  if_neg (not_contains_nul hfile)

/-- A test whose path is a word is opened as the source. -/
lemma checkTest_of_isWord (htest : isTestName test) (hword : Argument.IsWord test)
    {f : StoredFile} (hfile : w.file? test = some f) :
    w.checkTest test = (Invocation.ofSource test).run (f.feed.mapError (⟨test, ·⟩)) :=
  Outcome.ofCommand_ofSource htest (Invocation.ofArguments_word htest hword) hfile ⟨[], none⟩

/-- The checker rejects a path that is no word. -/
lemma checkTest_of_not_isWord (htest : isTestName test) (hword : ¬Argument.IsWord test) :
    ∃ e, w.checkTest test = Stop.outcome (.usage e) := by
  obtain ⟨e, he⟩ := Invocation.usage_of_not_isWord htest hword
  exact ⟨e, by rw [checkTest, Outcome.ofCommand, he]⟩

lemma checkTest_bytes (htest : isTestName test) (hword : Argument.IsWord test)
    {content : List UInt8} (hfile : w.file? test = some (.bytes content)) :
    ∃ err, w.checkTest test = ⟨.status 0, defaultReport content, err⟩ :=
  Outcome.ofCommand_content htest (Invocation.ofArguments_word htest hword) hfile ⟨[], none⟩

/-- A test of bytes is checked to its end just where its path is a word. -/
lemma code_checkTest_bytes (htest : isTestName test) {content : List UInt8}
    (hfile : w.file? test = some (.bytes content)) :
    (w.checkTest test).exit.code = 0 ↔ Argument.IsWord test := by
  by_cases hword : Argument.IsWord test
  · obtain ⟨err, hcheck⟩ := checkTest_bytes htest hword hfile
    rw [hcheck]
    exact iff_of_true rfl hword
  · obtain ⟨e, hcheck⟩ := checkTest_of_not_isWord (w := w) htest hword
    rw [hcheck]
    exact iff_of_false (by simp [Stop.outcome, Exit.code]) hword

/-- A test of bytes whose path is a word: all depends on the report that is recorded. -/
lemma testFailure_bytes (htest : isTestName test) (hword : Argument.IsWord test)
    {content : List UInt8} (hfile : w.file? test = some (.bytes content)) :
    w.testFailure .ready test = (w.replay test (defaultReport content)).mapError .unread := by
  obtain ⟨err, hcheck⟩ := checkTest_bytes htest hword hfile
  rw [testFailure_ready hfile, hcheck]
  rfl

/-- A test whose path is no word does not pass. -/
lemma testFailure_of_not_isWord (htest : isTestName test) (hword : ¬Argument.IsWord test)
    {f : StoredFile} (hfile : w.file? test = some f) :
    w.testFailure .ready test = .ok (some (.exitStatus 2)) := by
  obtain ⟨e, hcheck⟩ := checkTest_of_not_isWord (w := w) htest hword
  rw [testFailure_ready hfile, hcheck]
  rfl

/-- A checker that is not started is a failure of the test. -/
lemma testFailure_of_ne_ready {launch : Launch} (hlaunch : launch ≠ .ready) {f : StoredFile}
    (hfile : w.file? test = some f) : ∃ failure, w.testFailure launch test = .ok failure := by
  have hnul := not_contains_nul hfile
  cases launch with
  | ready => exact absurd rfl hlaunch
  | programMissing | interpreterMissing path => exact ⟨_, if_neg hnul⟩

/-- Whether it cannot be said what becomes of a test: it is checked with success, and then its
recorded report cannot be read. -/
def Lost (w : Workspace) (test : Text) : Prop := (w.checkTest test).exit.code = 0 ∧ w.Unread test

/-- What becomes of a test is said unless the test is lost. -/
lemma testFailure_cases (launch : Launch) {f : StoredFile} (hfile : w.file? test = some f) :
    ((launch = .ready ∧ w.Lost test) ∧
        ∃ e, w.expectedReport test = .error e ∧ w.testFailure launch test = .error (.unread e)) ∨
      (¬(launch = .ready ∧ w.Lost test) ∧ ∃ failure, w.testFailure launch test = .ok failure) := by
  by_cases hlaunch : launch = .ready
  · subst hlaunch
    rw [testFailure_ready hfile]
    by_cases hcode : (w.checkTest test).exit.code = 0
    · rw [if_neg (not_not.mpr hcode), replay]
      rcases w.expectedReport_cases test with ⟨hbad, e, he⟩ | ⟨hgood, expected, hexpected⟩
      · rw [he]
        exact .inl ⟨⟨rfl, hcode, hbad⟩, e, rfl, rfl⟩
      · rw [hexpected]
        exact .inr ⟨fun h => hgood h.2.2, _, rfl⟩
    · rw [if_pos hcode]
      exact .inr ⟨fun h => hcode h.2.1, _, rfl⟩
  · exact .inr ⟨fun h => hlaunch h.1, testFailure_of_ne_ready hlaunch hfile⟩

/-- What becomes of a test depends on its own file and on its recorded report alone. -/
lemma AgreeOn.testFailure {kept : Location → Prop} {w' : Workspace} (h : AgreeOn kept w w')
    (hkept : kept (Path.location w.home test))
    (hexpected : kept (Path.location w.home (expectedPath test))) (htest : isTestName test)
    {f : StoredFile} (hfile : w.file? test = some f) :
    w'.testFailure .ready test = w.testFailure .ready test := by
  have hfile' : w'.file? test = some f := (h.file?_eq hkept).trans hfile
  by_cases hword : Argument.IsWord test
  · rw [testFailure_ready hfile, testFailure_ready hfile', checkTest_of_isWord htest hword hfile,
      checkTest_of_isWord htest hword hfile', replay, replay, expectedReport, expectedReport,
      h.file?_eq hexpected]
  · -- The checker rejects such a path before it opens anything.
    rw [testFailure_of_not_isWord htest hword hfile, testFailure_of_not_isWord htest hword hfile']

/-- A test whose recorded report is what the checker writes passes, unless its path is no word. -/
theorem testFailure_recorded (htest : isTestName test) {content : List UInt8}
    (hfile : w.file? test = some (.bytes content)) (stdin : Feed SystemError)
    (hrecorded : w.file? (expectedPath test) =
      some (.bytes (Utf8.encode (Outcome.ofCommand ["--", test] w stdin).out))) :
    (Argument.IsWord test → w.testFailure .ready test = .ok none ∧
        Outcome.ofCommand [test] w stdin = Outcome.ofCommand ["--", test] w stdin) ∧
      (¬Argument.IsWord test → w.testFailure .ready test = .ok (some (.exitStatus 2))) ∧
      (test.head? ≠ some '-' → Argument.IsWord test) ∧
      (Outcome.ofCommand ["--", test] w stdin).exit = .status 0 := by
  obtain ⟨err, hcheck⟩ := Outcome.ofCommand_content htest
    (Invocation.ofArguments_separator test) hfile stdin
  rw [hcheck] at hrecorded
  refine ⟨?_, ?_, Argument.isWord_of_head?, by rw [hcheck]⟩
  · intro hword
    constructor
    · have hexpected : w.expectedReport test = .ok (some (defaultReport content)) :=
        expectedReport_recorded hrecorded (carriageReturn_notMem_defaultReport content)
      rw [testFailure_bytes htest hword hfile, replay, hexpected]
      simp [Except.map, Except.mapError]
    · rw [Outcome.ofCommand, Outcome.ofCommand, Invocation.ofArguments_word htest hword,
        Invocation.ofArguments_separator]
  · intro hword
    exact testFailure_of_not_isWord htest hword hfile

/-- A vertical tab, a byte that is no character, a lone carriage return and a last line that does
not end. -/
theorem testFailure_recorded_unended :
    let content : List UInt8 := [0x41, 0x0B, 0xFF, 0x0D, 0x53, 0x54, 0x4F, 0x50]
    let report : Text :=
      "Error (Line 1): Invalid Mnemonic Instruction 'A\x0b\uFFFD'\n[VALID] Line 2: STOP \n"
    let w : Workspace := ⟨["h"], [(["h", "d"], .directory),
      (["h", "d", "x.TXT"], .file (.bytes content)),
      (["h", "d", "x.expected"], .file (.bytes (Utf8.encode report)))], by simp⟩
    isTestName "d/x.TXT" ∧ w.file? "d/x.TXT" = some (.bytes content) ∧
      (Outcome.ofCommand ["--", "d/x.TXT"] w ⟨[], none⟩).out = report ∧
      w.file? (expectedPath "d/x.TXT") = some (.bytes (Utf8.encode report)) ∧
      w.testFailure .ready "d/x.TXT" = .ok none := by
  intro content report w
  have htest : isTestName "d/x.TXT" := by decide
  have hfile : w.file? "d/x.TXT" = some (.bytes content) := by decide
  have hout : (Outcome.ofCommand ["--", "d/x.TXT"] w ⟨[], none⟩).out = report := by decide
  have hrecorded : w.file? (expectedPath "d/x.TXT") = some (.bytes (Utf8.encode report)) := by
    decide
  have hword : Argument.IsWord "d/x.TXT" := by decide
  exact ⟨htest, hfile, hout, hrecorded,
    ((testFailure_recorded htest hfile ⟨[], none⟩ (hout ▸ hrecorded)).1 hword).1⟩

/-- A test whose path is sorted as an option: the checker rejects it, and the test does not pass. -/
theorem testFailure_recorded_option :
    let content : List UInt8 := [0x53, 0x54, 0x4F, 0x50, 0x0A]
    let report : Text := "[VALID] Line 1: STOP \n"
    let w : Workspace := ⟨[], [(["-a.txt"], .file (.bytes content)),
      (["-a.expected"], .file (.bytes (Utf8.encode report)))], by simp⟩
    isTestName "-a.txt" ∧ w.file? "-a.txt" = some (.bytes content) ∧
      (Outcome.ofCommand ["--", "-a.txt"] w ⟨[], none⟩).out = report ∧
      w.file? (expectedPath "-a.txt") = some (.bytes (Utf8.encode report)) ∧
      w.testFailure .ready "-a.txt" = .ok (some (.exitStatus 2)) := by
  decide

end Workspace

end AsmLint
