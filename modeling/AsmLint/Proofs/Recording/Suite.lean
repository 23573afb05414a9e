import AsmLint.Proofs.Recording.Replay

/-!
# Suites

A suite runs the tests of a directory in order and says of each what became of it, up to the first
that is lost because its recorded report cannot be read: there it stops, without a word on that test
or those behind it. Where none is lost, it ends with a summary. What it says of a test depends on
that test's two files alone.
-/

namespace AsmLint

lemma isTestName_join (directory : Text) {name : Text} (h : isTestName name) :
    isTestName (Path.join directory name) := by
  rw [Path.join]
  split_ifs <;> rwa [isTestName_append _ (four_le_length h)]

namespace Suite

variable {w : Workspace} {program directory : Text} {args names : List Text}

/-! ### Directories that are asked for -/

/-- Whether arguments ask for the tests of a directory, which is given by its full path. By default
they are those that stand beside the program. -/
inductive AsksFor (home : Location) (program : Text) : List Text → Text → Prop where
  | default : AsksFor home program [] (Path.absolute home (defaultTests home program))
  | named (directory : Text) : AsksFor home program [directory] (Path.absolute home directory)

lemma AsksFor.run_eq (h : AsksFor w.home program args directory) :
    run program args w = runDirectory program w directory := by
  cases h <;> rfl

lemma head?_absolute (home : Location) (path : Text) :
    (Path.absolute home path).head? = some '/' := by
  simp only [Path.absolute]
  split_ifs <;> rfl

/-- The path of a test in a directory that is asked for is a word. -/
lemma AsksFor.isWord {home : Location} (h : AsksFor home program args directory) (name : Text) :
    Argument.IsWord (Path.join directory name) := by
  have hhead : directory.head? = some '/' := by
    cases h <;> apply head?_absolute
  have hjoin : (Path.join directory name).head? = some '/' := by
    cases directory with
    | nil => cases hhead
    | cons c directory =>
      rw [Path.join]
      split_ifs <;> exact hhead
  apply Argument.isWord_of_head?
  simp [hjoin]

/-! ### Results -/

/-- The results of tests of which it is known what became of each. -/
def resultsBy (verdict : Text → Option TestFailure) (names : List Text) : List Result :=
  names.map fun name => ⟨name, verdict name⟩

/-- Tests that can be run have their results in front of whatever becomes of the rest. -/
lemma results_append {verdict : Text → Option TestFailure}
    (h : ∀ name ∈ names, w.testFailure .ready (Path.join directory name) = .ok (verdict name))
    (rest : List Text) :
    results w directory (names ++ rest) =
      (resultsBy verdict names ++ (results w directory rest).1, (results w directory rest).2) := by
  induction names with
  | nil => rfl
  | cons name names ih =>
    obtain ⟨hname, hnames⟩ := List.forall_mem_cons.mp h
    rw [List.cons_append, results, hname, ih hnames]
    rfl

lemma results_of_verdict {verdict : Text → Option TestFailure}
    (h : ∀ name ∈ names, w.testFailure .ready (Path.join directory name) = .ok (verdict name)) :
    results w directory names = (resultsBy verdict names, none) := by
  have happend := results_append h []
  rwa [List.append_nil, results, List.append_nil] at happend

lemma results_of_fault {verdict : Text → Option TestFailure} {name : Text} {e : SuiteFault}
    (h : ∀ n ∈ names, w.testFailure .ready (Path.join directory n) = .ok (verdict n))
    (hname : w.testFailure .ready (Path.join directory name) = .error e) (rest : List Text) :
    results w directory (names ++ name :: rest) = (resultsBy verdict names, some e) := by
  rw [results_append h, results, hname]
  simp

/-- Where there are tests and the program that they test, all output comes of the results. -/
lemma AsksFor.run_eq_conclude (h : AsksFor w.home program args directory)
    (hnames : w.testNames directory = .ok names) (hne : names ≠ [])
    (hchecker : w.isFile (checkerPath w.home program)) :
    run program args w = conclude (results w directory names).1 (results w directory names).2 := by
  have hdirectory := (Workspace.testNames_eq_ok.mp hnames).1
  rw [h.run_eq, runDirectory]
  cases names with
  | nil => exact absurd rfl hne
  | cons name names => simp [hdirectory, hchecker, hnames]

/-! ### Faults -/

/-- What becomes of each test of a directory. -/
lemma testFailure_of_mem (hnames : w.testNames directory = .ok names) {name : Text}
    (hname : name ∈ names) (launch : Launch) :
    let test := Path.join directory name
    ((launch = .ready ∧ w.Lost test) ∧
        ∃ e, w.expectedReport test = .error e ∧
          w.testFailure launch test = .error (.unread e)) ∨
      (¬(launch = .ready ∧ w.Lost test) ∧ ∃ failure, w.testFailure launch test = .ok failure) := by
  obtain ⟨-, hfile, -⟩ := (Workspace.mem_testNames hnames).mp hname
  obtain ⟨f, hf⟩ := Option.isSome_iff_exists.mp hfile
  exact Workspace.testFailure_cases launch hf

/-- What became of a test that could be run. -/
def verdictIn (w : Workspace) (directory name : Text) : Option TestFailure :=
  match w.testFailure .ready (Path.join directory name) with
  | .ok failure => failure
  | .error _ => none

lemma eq_verdictIn (hnames : w.testNames directory = .ok names) {name : Text}
    (hname : name ∈ names) (h : ¬w.Lost (Path.join directory name)) :
    w.testFailure .ready (Path.join directory name) = .ok (verdictIn w directory name) := by
  rcases testFailure_of_mem hnames hname .ready with ⟨hlost, -⟩ | ⟨-, failure, hfailure⟩
  · exact absurd hlost.2 h
  · rw [verdictIn, hfailure]

lemma exists_first {p : Text → Prop} (h : ∃ name ∈ names, p name) :
    ∃ front name rest, names = front ++ name :: rest ∧ p name ∧ ∀ n ∈ front, ¬p n := by
  classical
  obtain ⟨name, hname, hp⟩ := h
  obtain ⟨first, hfirst⟩ : ∃ first, names.find? (fun n => decide (p n)) = some first := by
    rw [← Option.isSome_iff_exists, List.find?_isSome]
    exact ⟨name, hname, decide_eq_true hp⟩
  obtain ⟨hp, front, rest, heq, hfront⟩ := List.find?_eq_some_iff_append.mp hfirst
  exact ⟨front, first, rest, heq, of_decide_eq_true hp, fun n hn => by simpa using hfront n hn⟩

/-- What becomes of a test is lost only where the checker ends well on it and its recorded report
cannot be read; on a test of bytes the checker ends well just if its path is a word. A suite in
which no test is lost says what became of every test and ends with the summary; any other stops at
the first. -/
theorem run_up_to_fault (hnames : w.testNames directory = .ok names) :
    (∀ name ∈ names, let test := Path.join directory name
      (∀ content, w.file? test = some (.bytes content) →
          (w.Lost test ↔ Argument.IsWord test ∧ w.Unread test)) ∧
        ∀ launch,
          ((∃ failure, w.testFailure launch test = .ok failure) ↔
              ¬(launch = .ready ∧ w.Lost test)) ∧
            ∀ fault, w.testFailure launch test = .error fault →
              ∃ e, fault = .unread e ∧ w.expectedReport test = .error e) ∧
    ∀ program args, AsksFor w.home program args directory → names ≠ [] →
      w.isFile (checkerPath w.home program) →
      (∀ name ∈ names, Argument.IsWord (Path.join directory name)) ∧
      ((∀ name ∈ names, ¬w.Lost (Path.join directory name)) →
        ∃ verdict : Text → Option TestFailure,
          (∀ name ∈ names,
            w.testFailure .ready (Path.join directory name) = .ok (verdict name)) ∧
          let rs := resultsBy verdict names
          run program args w = ⟨.status (if failed rs = [] then 0 else 1),
            unlines (rs.map Result.line ++ summary rs), []⟩) ∧
      ((∃ name ∈ names, w.Lost (Path.join directory name)) →
        ∃ (front : List Text) (name : Text) (rest : List Text)
          (verdict : Text → Option TestFailure) (e : ReadingError),
          names = front ++ name :: rest ∧ w.Lost (Path.join directory name) ∧
          w.expectedReport (Path.join directory name) = .error e ∧
          (∀ n ∈ front, w.testFailure .ready (Path.join directory n) = .ok (verdict n)) ∧
          run program args w = ⟨.crash (.unread e),
            unlines ((resultsBy verdict front).map Result.line), []⟩) := by
  constructor
  · intro name hname test
    obtain ⟨htest, -, -⟩ := (Workspace.mem_testNames hnames).mp hname
    constructor
    · intro content hfile
      rw [Workspace.Lost, Workspace.code_checkTest_bytes (isTestName_join directory htest) hfile]
    intro launch
    rcases testFailure_of_mem hnames hname launch with ⟨hlost, e, he, hbad⟩ | ⟨hsaid, failure, hok⟩
    · refine ⟨iff_of_false ?_ (not_not.mpr hlost), ?_⟩
      · rintro ⟨failure, hok⟩
        cases hbad.symm.trans hok
      · intro fault hfault
        exact ⟨e, Except.error.inj (hfault.symm.trans hbad), he⟩
    · refine ⟨iff_of_true ⟨failure, hok⟩ hsaid, ?_⟩
      intro fault hfault
      cases hok.symm.trans hfault
  intro program args hargs hne hchecker
  -- A full path begins with a slash, so the checker never takes it for an option.
  refine ⟨fun name _ => hargs.isWord name, ?_⟩
  rw [hargs.run_eq_conclude hnames hne hchecker]
  constructor
  · intro hall
    have hverdict := fun name hname => eq_verdictIn hnames hname (hall name hname)
    refine ⟨_, hverdict, ?_⟩
    rw [results_of_verdict hverdict]
    rfl
  · intro hlost
    obtain ⟨front, name, rest, rfl, hname, hfront⟩ := exists_first hlost
    have hverdict := fun n hn => eq_verdictIn hnames (List.mem_append_left _ hn) (hfront n hn)
    rcases testFailure_of_mem hnames (List.mem_append_right _ List.mem_cons_self) .ready with
      ⟨-, e, he, hbad⟩ | ⟨hsaid, -⟩
    · refine ⟨front, name, rest, _, e, rfl, hname, he, hverdict, ?_⟩
      rw [results_of_fault hverdict hbad]
      rfl
    · exact absurd ⟨rfl, hname⟩ hsaid

/-- A suite of two tests, of which the second is recorded with other line ends. The program stands
apart from the home directory. -/
theorem run_up_to_fault_absent :
    let w : Workspace := ⟨["h"], [(["h", "t"], .directory),
      (["h", "t", "a.txt"], .file (.bytes (Utf8.encode "LOOP ADD"))),
      (["h", "t", "b.TXT"], .file (.bytes (Utf8.encode "STOP"))),
      (["h", "t", "b.expected"], .file (.bytes (Utf8.encode "[VALID] Line 1: STOP \r\n"))),
      (["p"], .directory), (["p", "checker.py"], .file (.bytes []))], by simp⟩
    let names : List Text := ["a.txt", "b.TXT"]
    let program : Text := "../p/run_tests.py"
    w.testNames "/h/t" = .ok names ∧ AsksFor w.home program ["t"] "/h/t" ∧ names ≠ [] ∧
      w.isFile (checkerPath w.home program) ∧
      (∀ name ∈ names, ¬w.Lost (Path.join "/h/t" name)) ∧
      ∃ verdict,
        (∀ name ∈ names, w.testFailure .ready (Path.join "/h/t" name) = .ok (verdict name)) ∧
        let rs := resultsBy verdict names
        run program ["t"] w = ⟨.status (if failed rs = [] then 0 else 1),
          unlines (rs.map Result.line ++ summary rs), []⟩ := by
  intro w names program
  have hnames : w.testNames "/h/t" = .ok names :=
    Workspace.testNames_of_sorted (by decide) (by decide) (by decide)
  have hargs : AsksFor w.home program ["t"] "/h/t" := .named "t"
  have hne : names ≠ [] := List.cons_ne_nil _ _
  have hchecker : w.isFile (checkerPath w.home program) := by decide
  have hall : ∀ name ∈ names, ¬w.Lost (Path.join "/h/t" name) := by
    intro name hname
    rcases List.mem_pair.mp hname with rfl | rfl
    · rintro ⟨-, f, hf, -⟩
      cases hf
    · -- The record is UTF-8 with a carriage return, which reading takes out.
      rintro ⟨-, f, hf, hnone⟩
      obtain rfl := Option.some.inj hf
      exact hnone _ (.bytes "[VALID] Line 1: STOP \r\n")
  exact ⟨hnames, hargs, hne, hchecker, hall,
    ((run_up_to_fault hnames).2 _ _ hargs hne hchecker).2.1 hall⟩

/-- The first of two tests has a byte as its recorded report that is no character. Of neither test
anything is said. -/
theorem run_up_to_fault_unreported :
    let w : Workspace := ⟨["h"], [(["h", "t"], .directory),
      (["h", "t", "a.txt"], .file (.bytes (Utf8.encode "STOP"))),
      (["h", "t", "a.expected"], .file (.bytes [0xFF])),
      (["h", "t", "b.txt"], .file (.bytes (Utf8.encode "STOP"))),
      (["h", "checker.py"], .file (.bytes []))], by simp⟩
    let fault : SuiteFault := .unread (.undecodable ⟨0, [0xFF], .start⟩)
    w.testNames "/h/t" = .ok ["a.txt", "b.txt"] ∧
      w.testFailure .ready (Path.join "/h/t" "a.txt") = .error fault ∧
      run "run_tests.py" ["t"] w = ⟨.crash fault, [], []⟩ := by
  intro w fault
  have hnames : w.testNames "/h/t" = .ok ["a.txt", "b.txt"] :=
    Workspace.testNames_of_sorted (by decide) (by decide) (by decide)
  have hfault : w.testFailure .ready (Path.join "/h/t" "a.txt") = .error fault := by decide
  have hargs : AsksFor w.home "run_tests.py" ["t"] "/h/t" := .named "t"
  have hchecker : w.isFile (checkerPath w.home "run_tests.py") := by decide
  refine ⟨hnames, hfault, ?_⟩
  rw [hargs.run_eq_conclude hnames (List.cons_ne_nil _ _) hchecker, results, hfault]
  rfl

/-! ### Reports of suites -/

lemma failed_resultsBy (verdict : Text → Option TestFailure) (names : List Text) :
    failed (resultsBy verdict names) =
      resultsBy verdict (names.filter fun n => (verdict n).isSome) := by
  rw [failed, resultsBy, List.filter_map]
  rfl

/-- A suite says of each test what became of it, in the order of the names, and then how many failed
and which. What it says of a test depends on the test's own file and on its recorded report alone,
as long as its name is one that a file may have, without a slash. Without the program that is tested
nothing is said of any test. -/
theorem run_reports (hargs : AsksFor w.home program args directory)
    (hnames : w.testNames directory = .ok names) (hne : names ≠ []) :
    let checker := checkerPath w.home program
    (w.isFile checker →
      ∀ verdict : Text → Option TestFailure,
        (∀ name ∈ names,
          w.testFailure .ready (Path.join directory name) = .ok (verdict name)) →
        let lines : List Text := names.map fun name =>
          "Test " ++ name ++ ": " ++
            match verdict name with
            | none => "PASSED"
            | some failure => "FAILED (" ++ failure.message ++ ")"
        let failing := names.filter fun name => (verdict name).isSome
        let total : Text :=
          if failing = [] then "All " ++ decimal names.length ++ " tests passed successfully."
          else decimal failing.length ++ " out of " ++ decimal names.length ++ " tests failed:"
        let list : List Text := failing.map fun name => " - " ++ name
        run program args w = ⟨.status (if failing = [] then 0 else 1),
          unlines (lines ++ [] :: total :: list), []⟩) ∧
    (w.isFile checker = false → run program args w =
      ⟨.status 1, unlines ["Error: could not find checker.py at " ++ checker], []⟩) ∧
    ∀ name ∈ names, '/' ∉ name → ∀ w' : Workspace,
      let test := Path.join directory name
      w.AgreeOn (fun l => l = Path.location w.home test ∨
        l = Path.location w.home (expectedPath test)) w' →
      ∃ names', w'.testNames directory = .ok names' ∧ name ∈ names' ∧
        w'.testFailure .ready test = w.testFailure .ready test := by
  intro checker
  refine ⟨?_, ?_, ?_⟩
  · intro hchecker verdict hverdict lines failing total list
    have hrun : run program args w = conclude (resultsBy verdict names) none := by
      rw [hargs.run_eq_conclude hnames hne hchecker, results_of_verdict hverdict]
    have hlines : (resultsBy verdict names).map Result.line = lines := by
      rw [resultsBy, List.map_map]
      rfl
    have hfailed : failed (resultsBy verdict names) = resultsBy verdict failing :=
      failed_resultsBy verdict names
    have hsummary : summary (resultsBy verdict names) = [] :: total :: list := by
      rw [summary, hfailed]
      by_cases hnone : failing = []
      · simp [hnone, resultsBy, total, list]
      · simp [hnone, resultsBy, total, list]
    rw [hrun, conclude, hlines, hsummary, hfailed]
    simp [resultsBy]
  · intro hchecker
    rw [hargs.run_eq, runDirectory]
    simp [(Workspace.testNames_eq_ok.mp hnames).1, hchecker, checker]
  · intro name hname hslash w' test hagree
    obtain ⟨htest, hfile, -⟩ := (Workspace.mem_testNames hnames).mp hname
    obtain ⟨f, hf⟩ := Option.isSome_iff_exists.mp hfile
    obtain ⟨names', hnames', hname'⟩ := hagree.testNames hnames hname hslash (.inl rfl)
    refine ⟨names', hnames', hname', ?_⟩
    exact hagree.testFailure (.inl rfl) (.inr rfl) (isTestName_join directory htest) hf

/-- Of three tests the second differs from its recorded report, and the third may not be read. What
is said of the first stays the same when a test is added and the second is removed. -/
theorem run_reports_two_failed :
    let w : Workspace := ⟨["h"], [(["h", "t"], .directory),
      (["h", "t", "a.txt"], .file (.bytes (Utf8.encode "LOOP ADD"))),
      (["h", "t", "b.TXT"], .file (.bytes (Utf8.encode "STOP"))),
      (["h", "t", "b.expected"], .file (.bytes [])),
      (["h", "t", "c.txt"], .file .unreadable),
      (["p"], .directory), (["p", "checker.py"], .file (.bytes []))], by simp⟩
    let names : List Text := ["a.txt", "b.TXT", "c.txt"]
    let program : Text := "/p/run_tests.py"
    let w' := (w.insertAt ["h", "t", "A.txt"] (.file (.bytes [0xFF]))).eraseAt ["h", "t", "b.TXT"]
    AsksFor w.home program ["t"] "/h/t" ∧ w.testNames "/h/t" = .ok names ∧ names ≠ [] ∧
      w.isFile (checkerPath w.home program) ∧
      run program ["t"] w = ⟨.status 1, unlines ["Test a.txt: PASSED",
        "Test b.TXT: FAILED (expected 0 report lines, got 1)", "Test c.txt: FAILED (exit 1)",
        "", "2 out of 3 tests failed:", " - b.TXT", " - c.txt"], []⟩ ∧
      ∃ names', w'.testNames "/h/t" = .ok names' ∧ "a.txt".toList ∈ names' ∧
        w'.testFailure .ready "/h/t/a.txt" = w.testFailure .ready "/h/t/a.txt" := by
  intro w names program w'
  have hargs : AsksFor w.home program ["t"] "/h/t" := .named "t"
  have hnames : w.testNames "/h/t" = .ok names :=
    Workspace.testNames_of_sorted (by decide) (by decide) (by decide)
  have hne : names ≠ [] := List.cons_ne_nil _ _
  have hchecker : w.isFile (checkerPath w.home program) := by decide
  obtain ⟨hrun, -, hframe⟩ := run_reports hargs hnames hne
  refine ⟨hargs, hnames, hne, hchecker, ?_, ?_⟩
  · let verdict (name : Text) : Option TestFailure :=
      if name = "a.txt" then none
      else if name = "b.TXT" then some (.differs (.count 0 1))
      else some (.exitStatus 1)
    have hverdict : ∀ name ∈ names,
        w.testFailure .ready (Path.join "/h/t" name) = .ok (verdict name) := by
      intro name hname
      simp only [names, List.mem_cons, List.not_mem_nil, or_false] at hname
      rcases hname with rfl | rfl | rfl <;> decide
    rw [hrun hchecker verdict hverdict]
    decide +kernel
  · let kept (l : Location) : Prop :=
      l = Path.location w.home (Path.join "/h/t" "a.txt") ∨
        l = Path.location w.home (expectedPath (Path.join "/h/t" "a.txt"))
    have hadded : ¬kept ["h", "t", "A.txt"] := by decide
    have hremoved : ¬kept ["h", "t", "b.TXT"] := by decide
    have hinsert := w.agreeOn_insertAt (by decide) hadded (.bytes [0xFF])
    have herase := Workspace.agreeOn_eraseAt
      (w := w.insertAt ["h", "t", "A.txt"] (.file (.bytes [0xFF]))) (by decide) hremoved
    exact hframe "a.txt" List.mem_cons_self (by decide) w' (hinsert.trans herase)

/-- Without the program that is tested each test fails, but of none is it said. -/
theorem run_reports_without_checker :
    let w : Workspace := ⟨["h"], [(["h", "d"], .directory),
      (["h", "d", "a.txt"], .file (.bytes (Utf8.encode "STOP")))], by simp⟩
    let program : Text := "run_tests.py"
    AsksFor w.home program ["d"] "/h/d" ∧ w.testNames "/h/d" = .ok ["a.txt"] ∧
      w.testFailure .programMissing "/h/d/a.txt" = .ok (some (.exitStatus 2)) ∧
      run program ["d"] w =
        ⟨.status 1, unlines ["Error: could not find checker.py at /h/checker.py"], []⟩ ∧
      (run program ["d"] w).out ≠ unlines ["Test a.txt: FAILED (exit 2)", "",
        "1 out of 1 tests failed:", " - a.txt"] := by
  intro w program
  have hargs : AsksFor w.home program ["d"] "/h/d" := .named "d"
  have hnames : w.testNames "/h/d" = .ok ["a.txt"] :=
    Workspace.testNames_of_sorted (by decide) (by decide) (by decide)
  have hrun : run program ["d"] w =
      ⟨.status 1, unlines ["Error: could not find checker.py at /h/checker.py"], []⟩ := by
    rw [hargs.run_eq]
    decide
  refine ⟨hargs, hnames, by decide, hrun, ?_⟩
  rw [hrun]
  decide

end Suite

end AsmLint
