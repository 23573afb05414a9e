import AsmLint.Proofs.Recording.Replay
import AsmLint.Proofs.Recording.TestName

/-!
# Siblings of tests

The report that is expected of a test stands beside it, in the same directory. Its name is that of
the test with `.expected` in place of `.txt`. But dots in front of a name begin no extension: where
there is nothing else in front of `.txt`, the name of the test is kept whole.
-/

namespace AsmLint

/-! ### The last of a character -/

lemma forall_ne_of_notMem {c : Char} {t : Text} (h : c ∉ t) :
    ∀ d ∈ t.reverse, decide (d ≠ c) = true := by
  intro d hd
  apply decide_eq_true
  rintro rfl
  exact h (List.mem_reverse.mp hd)

/-- What stands behind the last of a character. -/
lemma takeWhile_reverse_append {c : Char} (front : Text) {behind : Text} (h : c ∉ behind) :
    (front ++ c :: behind).reverse.takeWhile (· ≠ c) = behind.reverse := by
  rw [List.reverse_append, List.reverse_cons, List.append_assoc,
    List.takeWhile_append_of_pos (forall_ne_of_notMem h), List.singleton_append,
    List.takeWhile_cons_of_neg (by simp), List.append_nil]

/-- What stands in front of the last of a character, and this one. -/
lemma dropWhile_reverse_append {c : Char} (front : Text) {behind : Text} (h : c ∉ behind) :
    (front ++ c :: behind).reverse.dropWhile (· ≠ c) = c :: front.reverse := by
  rw [List.reverse_append, List.reverse_cons, List.append_assoc,
    List.dropWhile_append_of_pos (forall_ne_of_notMem h), List.singleton_append,
    List.dropWhile_cons_of_neg (by simp)]

/-! ### Names without their extension -/

namespace Path

lemma withoutExtension_append_slash (front : Text) {behind : Text} (h : '/' ∉ behind) :
    withoutExtension (front ++ '/' :: behind) = front ++ '/' :: stem behind := by
  have hname : name (front ++ '/' :: behind) = behind := by
    rw [name, takeWhile_reverse_append front h, List.reverse_reverse]
  have hparent : parent (front ++ '/' :: behind) = front ++ ['/'] := by
    rw [parent, dropWhile_reverse_append front h, List.reverse_cons, List.reverse_reverse]
  rw [withoutExtension, hname, hparent, List.append_assoc, List.singleton_append]

lemma dropWhile_dots_append {front : Text} (hfront : ∃ c ∈ front, c ≠ '.') (behind : Text) :
    (front ++ behind).dropWhile (· = '.') = front.dropWhile (· = '.') ++ behind := by
  obtain ⟨c, hc, hne⟩ := hfront
  have hrest : (front.dropWhile (· = '.')).isEmpty = false := by
    rw [List.isEmpty_eq_false_iff]
    intro hnil
    exact hne (of_decide_eq_true (List.dropWhile_eq_nil_iff.mp hnil c hc))
  rw [List.dropWhile_append, hrest]
  rfl

/-- The last dot begins the extension of a name, if not all in front of it are dots. -/
lemma stem_append {front ext : Text} (hfront : ∃ c ∈ front, c ≠ '.') (hext : '.' ∉ ext) :
    stem (front ++ '.' :: ext) = front := by
  have hbody := dropWhile_dots_append hfront ('.' :: ext)
  have hdots : (front ++ '.' :: ext).takeWhile (· = '.') = front.takeWhile (· = '.') := by
    refine (List.append_left_inj ((front ++ '.' :: ext).dropWhile (· = '.'))).mp ?_
    rw [List.takeWhile_append_dropWhile, hbody, ← List.append_assoc,
      List.takeWhile_append_dropWhile]
  have hcut :
      (((front.dropWhile (· = '.') ++ '.' :: ext).reverse.dropWhile (· ≠ '.')).drop 1).reverse =
        front.dropWhile (· = '.') := by
    rw [dropWhile_reverse_append _ hext, List.drop_one, List.tail_cons, List.reverse_reverse]
  rw [stem]
  simp only [hbody, hdots, hcut]
  rw [if_pos (by simp), List.takeWhile_append_dropWhile]

/-- A name has no extension if all in front of its last dot are dots. -/
lemma stem_of_dots {dots ext : Text} (hdots : ∀ c ∈ dots, c = '.') (hext : '.' ∉ ext) :
    stem (dots ++ '.' :: ext) = dots ++ '.' :: ext := by
  have hall : ∀ c ∈ dots ++ ['.'], decide (c = '.') = true := by
    intro c hc
    apply decide_eq_true
    rcases List.mem_append.mp hc with hc | hc
    · exact hdots c hc
    · exact List.mem_singleton.mp hc
  have hbody : '.' ∉ (dots ++ '.' :: ext).dropWhile (· = '.') := by
    rw [← List.singleton_append, ← List.append_assoc, List.dropWhile_append_of_pos hall]
    exact fun hmem => hext ((List.dropWhile_suffix _).subset hmem)
  rw [stem]
  simp only [List.contains_eq_mem, hbody, decide_false, Bool.false_eq_true, if_false]

end Path

/-! ### The path of the expected report -/

/-- The report that is expected of a test stands in the directory of the test. -/
lemma expectedPath_join {directory name : Text} (hdirectory : directory ≠ []) (hname : '/' ∉ name) :
    expectedPath (Path.join directory name) =
      Path.join directory (Path.stem name ++ (".expected" : Text)) := by
  obtain ⟨front, -, hjoin⟩ := Path.exists_join hdirectory
  rw [hjoin, hjoin, expectedPath, Path.withoutExtension_append_slash front hname, List.append_assoc]
  rfl

namespace Workspace

variable {w : Workspace} {directory name : Text} {names : List Text}

/-- The report that is expected of a test is what a single file of the directory holds. Where that
file holds no text, its bytes are not UTF-8, or the system fails on it. -/
structure ReadsFrom (w : Workspace) (directory test sibling : Text) : Prop where
  located : (Utf8.encode sibling).length ≤ maxNameBytes → ∀ f,
    (w.file? (Path.join directory sibling) = some f ↔
      w.entry? (Path.location w.home directory ++ [sibling]) = some (.file f) ∧
        (Utf8.encode (Path.join directory sibling)).length ≤ maxPathBytes)
  absent : w.file? (Path.join directory sibling) = none → w.expectedReport test = .ok none
  text : ∀ f t, w.file? (Path.join directory sibling) = some f → f.Holds t →
    w.expectedReport test = .ok (some (unifyTerminators t))
  unread : ∀ f, w.file? (Path.join directory sibling) = some f → (∀ t, ¬f.Holds t) →
    ∃ e, w.expectedReport test = .error e ∧
      ((∃ content, f = .bytes content) ↔ ∃ d, e = .undecodable d)
  /-- No other file matters. -/
  alone : ∀ w', AgreeOn (· = Path.location w.home directory ++ [sibling]) w w' →
    w'.expectedReport test = w.expectedReport test

lemma readsFrom_stem (hdirectory : w.isDirectory directory) (hname : '/' ∉ name) {stem : Text}
    (hstem : Path.stem name = stem) (hslash : '/' ∉ stem) (hnul : '\x00' ∉ stem) :
    w.ReadsFrom directory (Path.join directory name) (stem ++ (".expected" : Text)) := by
  obtain ⟨hreaches, -⟩ := isDirectory_iff.mp hdirectory
  have hpath : expectedPath (Path.join directory name) =
      Path.join directory (stem ++ (".expected" : Text)) := by
    rw [expectedPath_join hreaches.ne_nil hname, hstem]
  have hslash' : '/' ∉ stem ++ (".expected" : Text) := List.not_mem_append hslash (by decide)
  have hstep : ∀ l : Location, l.step (stem ++ (".expected" : Text)) =
      l ++ [stem ++ (".expected" : Text)] := by
    refine step_of_two_lt ?_
    rw [List.length_append]
    exact Nat.lt_add_left _ (by decide)
  refine ⟨?_, ?_, ?_, ?_, ?_⟩
  · intro hlength f
    exact file?_join hdirectory ⟨hslash', List.not_mem_append hnul (by decide), hlength⟩ hstep
  · intro hfile
    rw [expectedReport, hpath, hfile]
  · exact fun f t hfile => expectedReport_of_holds (hpath ▸ hfile)
  · exact fun f hfile => expectedReport_of_not_holds (hpath ▸ hfile)
  · intro w' hagree
    have hlocation : Path.location w.home (Path.join directory (stem ++ (".expected" : Text))) =
        Path.location w.home directory ++ [stem ++ (".expected" : Text)] := by
      rw [Path.location_join _ _ hslash', hstep]
    rw [expectedReport, expectedReport, hpath, hagree.file?_eq hlocation]

/-- The report that is expected of a test is read from the sibling that has `.expected` in place of
`.txt`; if nothing but dots stands in front of `.txt`, then from the one that has `.expected` behind
it. -/
theorem expectedReport_sibling (hnames : w.testNames directory = .ok names) (hname : name ∈ names)
    (hslash : '/' ∉ name) :
    ∃ stem ext, name = stem ++ ext ∧ IsTxt ext ∧
      ((∃ c ∈ stem, c ≠ '.') → w.ReadsFrom directory (Path.join directory name)
        (stem ++ (".expected" : Text))) ∧
      ((∀ c ∈ stem, c = '.') → w.ReadsFrom directory (Path.join directory name)
        (name ++ (".expected" : Text))) := by
  obtain ⟨hdirectory, -⟩ := testNames_eq_ok.mp hnames
  obtain ⟨htest, hfile, -⟩ := (mem_testNames hnames).mp hname
  obtain ⟨f, hf⟩ := Option.isSome_iff_exists.mp hfile
  have hnul : '\x00' ∉ name := by
    obtain ⟨front, -, hjoin⟩ := Path.exists_join (isDirectory_iff.mp hdirectory).1.ne_nil
    have h := (file?_eq_some.mp hf).1.noNul
    rw [hjoin] at h
    exact fun hmem => h (by simp [hmem])
  obtain ⟨stem, ext, rfl, hext⟩ := isTestName_iff.mp htest
  obtain ⟨letters, rfl, hdot⟩ := hext.exists_letters
  refine ⟨stem, '.' :: letters, rfl, hext, fun hstem => ?_, fun hdots => ?_⟩
  · refine readsFrom_stem hdirectory hslash (Path.stem_append hstem hdot) ?_ ?_
    · exact fun hmem => hslash (List.mem_append_left _ hmem)
    · exact fun hmem => hnul (List.mem_append_left _ hmem)
  · exact readsFrom_stem hdirectory hslash (Path.stem_of_dots hdots hdot) hslash hnul

/-- Dots in the names of directories and in the name of the test. -/
theorem expectedReport_sibling_dotted :
    let w : Workspace := ⟨["h"], [(["h", "a.b"], .directory), (["h", "a.b", "c.d"], .directory),
      (["h", "a.b", "c.d", "..x.y.TxT"], .file (.bytes [])),
      (["h", "a.b", "c.d", "..x.y.expected"], .file (.bytes [0x73, 0x0D, 0x0A]))], by simp⟩
    w.testNames "a.b/c.d" = .ok ["..x.y.TxT"] ∧
      w.file? "a.b/c.d/..x.y.expected" = some (.bytes [0x73, 0x0D, 0x0A]) ∧
      w.expectedReport (Path.join "a.b/c.d" "..x.y.TxT") = .ok (some "s\n") := by
  intro w
  have hnames : w.testNames "a.b/c.d" = .ok ["..x.y.TxT"] :=
    testNames_of_sorted (by decide) (by decide) (List.pairwise_singleton _ _)
  have hfile : w.file? "a.b/c.d/..x.y.expected" = some (.bytes [0x73, 0x0D, 0x0A]) := by decide
  obtain ⟨stem, ext, hname, ⟨a, b, c, rfl, -⟩, hreads, -⟩ :=
    expectedReport_sibling hnames (List.mem_singleton_self _) (by decide)
  obtain ⟨rfl, -⟩ : ("..x.y" : Text) = stem ∧ _ := List.append_inj' hname rfl
  exact ⟨hnames, hfile, (hreads ⟨'x', by decide, by decide⟩).text _ _ hfile (.bytes "s\r\n")⟩

/-- A file of the documented name stands beside a test, but another one is looked for. -/
theorem expectedReport_unextended :
    let w : Workspace := ⟨["h"], [(["h", "t"], .directory),
      (["h", "t", ".txt"], .file (.bytes (Utf8.encode "STOP\n"))),
      (["h", "t", ".expected"], .file (.bytes (Utf8.encode "x\n")))], by simp⟩
    w.testNames "t" = .ok [".txt"] ∧
      w.file? "t/.expected" = some (.bytes (Utf8.encode "x\n")) ∧
      w.expectedReport (Path.join "t" ".txt") = .ok none := by
  intro w
  have hnames : w.testNames "t" = .ok [".txt"] :=
    testNames_of_sorted (by decide) (by decide) (List.pairwise_singleton _ _)
  exact ⟨hnames, by decide, by decide⟩

end Workspace

end AsmLint
