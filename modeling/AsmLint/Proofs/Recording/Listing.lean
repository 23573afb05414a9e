import AsmLint.Proofs.Recording.Directory
import AsmLint.Proofs.Recording.TestName
import Mathlib.Data.List.Nodup

/-!
# Lists of tests

The tests of a directory are listed once each, in the order of their names, whatever the order in
which the directory is read. A file that has the name of a test is listed unless its path is longer
than the system allows, which it can be although the directory can be read.
-/

namespace AsmLint

/-! ### Sorting -/

lemma not_lt_trans {a b c : Text} (hba : ¬b < a) (hcb : ¬c < b) : ¬c < a :=
  List.not_lt.mpr (List.le_trans (List.not_lt.mp hba) (List.not_lt.mp hcb))

lemma eq_of_not_lt {a b : Text} (hba : ¬b < a) (hab : ¬a < b) : a = b :=
  List.le_antisymm (List.not_lt.mp hba) (List.not_lt.mp hab)

lemma pairwise_sortNames (names : List Text) : (sortNames names).Pairwise fun a b => ¬b < a := by
  rw [sortNames]
  have h := @List.pairwise_mergeSort Text (fun a b => decide (¬b < a)) ?_ ?_ names
  · simpa only [decide_eq_true_eq] using h
  · intro a b c hab hbc
    exact decide_eq_true (not_lt_trans (of_decide_eq_true hab) (of_decide_eq_true hbc))
  · intro a b
    rw [Bool.or_eq_true, decide_eq_true_eq, decide_eq_true_eq, List.not_lt, List.not_lt]
    exact List.le_total a b

/-- Names of which no two are the same stand in their strict order. -/
lemma pairwise_lt_sortNames {names : List Text} (h : names.Nodup) :
    (sortNames names).Pairwise (· < ·) := by
  have hdistinct : (sortNames names).Nodup := (List.mergeSort_perm names _).nodup_iff.mpr h
  refine (pairwise_sortNames names).imp₂ (fun a b hba hne => ?_) hdistinct
  by_contra hab
  exact hne (eq_of_not_lt hba hab)

/-- The order in which names are given does not matter. -/
lemma sortNames_congr {names names' : List Text} (h : names.Perm names') :
    sortNames names = sortNames names' := by
  refine List.Perm.eq_of_pairwise (fun a b _ _ => eq_of_not_lt) (pairwise_sortNames names)
    (pairwise_sortNames names') ?_
  exact (List.mergeSort_perm names _).trans (h.trans (List.mergeSort_perm names' _).symm)

namespace Path

lemma le_length_encode_join (directory name : Text) :
    (Utf8.encode directory).length + (Utf8.encode name).length ≤
      (Utf8.encode (join directory name)).length := by
  rw [join]
  split_ifs <;> simp only [Utf8.encode_append, List.length_append] <;> omega

end Path

namespace Workspace

variable {w w' : Workspace} {directory name : Text} {names : List Text}

/-- The name of a test is that of a file if a file is stored under it, at a path of legal length. -/
lemma hasFile_iff (hdirectory : w.isDirectory directory) (hname : IsFileName name)
    (htest : isTestName name) :
    w.hasFile directory name ↔
      (∃ f, w.entry? (Path.location w.home directory ++ [name]) = some (.file f)) ∧
        (Utf8.encode (Path.join directory name)).length ≤ maxPathBytes := by
  rw [hasFile, isFile, Option.isSome_iff_exists]
  simp only [file?_join hdirectory hname (step_of_isTestName htest), exists_and_right]

/-! ### Names that are stored -/

/-- As no two entries stand at one location, the entry at a location is the one that is stored for
it. -/
lemma lookup_eq_some {entries : List (Location × Entry)} (h : (entries.map Prod.fst).Nodup)
    {l : Location} {e : Entry} : entries.lookup l = some e ↔ (l, e) ∈ entries := by
  induction entries with
  | nil => simp
  | cons x xs ih =>
    obtain ⟨m, f⟩ := x
    obtain ⟨hfresh, hrest⟩ := List.nodup_cons.mp h
    rw [List.lookup_cons, List.mem_cons, Prod.mk.injEq]
    by_cases hl : l = m
    · subst hl
      have hmem : (l, e) ∉ xs := fun hmem => hfresh (List.mem_map.mpr ⟨(l, e), hmem, rfl⟩)
      simp [hmem, eq_comm]
    · rw [beq_false_of_ne hl]
      simp [hl, ih hrest]

lemma nodup_names (w : Workspace) (l : Location) : (w.names l).Nodup := by
  have hnames : w.names l = (w.entries.map Prod.fst).filterMap fun m =>
      if m.dropLast = l then m.getLast? else none := by
    rw [List.filterMap_map]
    rfl
  rw [hnames]
  refine w.distinct.filterMap fun m m' name hm hm' => ?_
  rw [Option.mem_def] at hm hm'
  split_ifs at hm hm' with hl hl'
  obtain ⟨front, rfl⟩ := List.getLast?_eq_some_iff.mp hm
  obtain ⟨front', rfl⟩ := List.getLast?_eq_some_iff.mp hm'
  rw [List.dropLast_concat] at hl hl'
  rw [hl, hl']

/-- The order in which entries are stored is nothing that a path could be affected by. -/
lemma agreeOn_of_perm (hhome : w'.home = w.home) (hentries : w'.entries.Perm w.entries) :
    AgreeOn (fun _ => True) w w' := by
  have hentry : ∀ l, w'.entry? l = w.entry? l := by
    intro l
    have hlookup : w'.entries.lookup l = w.entries.lookup l := by
      apply Option.ext
      intro e
      rw [lookup_eq_some w'.distinct, lookup_eq_some w.distinct, hentries.mem_iff]
    unfold entry?
    rw [hhome, hlookup]
  exact ⟨hhome, fun l => by rw [hentry], fun l _ => hentry l⟩

/-- The tests of a directory are found in the same order, whatever the order in which it is read. -/
lemma testNames_of_perm (hhome : w'.home = w.home) (hentries : w'.entries.Perm w.entries)
    (h : w.testNames directory = .ok names) : w'.testNames directory = .ok names := by
  have hagree := agreeOn_of_perm hhome hentries
  have hfile : ∀ name, w'.hasFile directory name = w.hasFile directory name := by
    intro name
    rw [hasFile, hasFile, isFile, isFile, hagree.file?_eq trivial]
  obtain ⟨hdirectory, rfl⟩ := testNames_eq_ok.mp h
  refine testNames_eq_ok.mpr ⟨(hagree.isDirectory_iff directory).mpr hdirectory, ?_⟩
  simp only [hfile, hhome]
  exact sortNames_congr ((hentries.filterMap _).filter _).symm

/-! ### Lists -/

/-- What the list of a directory's tests holds. -/
structure Lists (w : Workspace) (directory : Text) (names : List Text) : Prop where
  sorted : names.Pairwise (· < ·)
  /-- Only what stands in the directory itself is listed. -/
  stored : ∀ name ∈ names, ∃ e, (Path.location w.home directory ++ [name], e) ∈ w.entries
  mem_iff : ∀ name, IsFileName name →
    (name ∈ names ↔ (∃ stem ext, name = stem ++ ext ∧ IsTxt ext) ∧
      (∃ f, w.entry? (Path.location w.home directory ++ [name]) = some (.file f)) ∧
      (Utf8.encode (Path.join directory name)).length ≤ maxPathBytes)
  /-- Names end so just where their lower case ends in `.txt`. -/
  lower_iff : ∀ name, (∃ lower, Lowered name lower) ∧ ∀ lower, Lowered name lower →
    ((".txt" : Text) <:+ lower ↔ ∃ stem ext, name = stem ++ ext ∧ IsTxt ext)
  unordered : ∀ w' : Workspace, w'.home = w.home → w'.entries.Perm w.entries →
    w'.testNames directory = .ok names

/-- Every directory has its list of tests; none is left out but those whose path is too long. -/
theorem testNames_lists (hdirectory : w.isDirectory directory) :
    ∃ names, w.testNames directory = .ok names ∧ w.Lists directory names := by
  have hnames := testNames_eq_ok.mpr ⟨hdirectory, rfl⟩
  refine ⟨_, hnames, pairwise_lt_sortNames ((w.nodup_names _).filter _), ?_, ?_, ?_, ?_⟩
  · intro name hmem
    exact ((mem_testNames hnames).mp hmem).2.2
  · intro name hname
    rw [mem_testNames hnames, ← isTestName_iff]
    constructor
    · rintro ⟨htest, hfile, -⟩
      exact ⟨htest, (hasFile_iff hdirectory hname htest).mp hfile⟩
    · rintro ⟨htest, ⟨f, hf⟩, hlength⟩
      exact ⟨htest, (hasFile_iff hdirectory hname htest).mpr ⟨⟨f, hf⟩, hlength⟩, .file f,
        mem_entries_of_file hf⟩
  · intro name
    exact ⟨Lowered.exists_lowered name, fun lower => Lowered.txt_suffix_iff⟩
  · intro w' hhome hentries
    exact testNames_of_perm hhome hentries hnames

/-- A directory that is named like a test, with a file in it, and a name with something behind
`.txt`. -/
theorem testNames_lists_reversed :
    let entries : List (Location × Entry) := [(["h", "t"], .directory),
      (["h", "t", "Z.TXT"], .file (.bytes [])), (["h", "t", "a.txt"], .file .unreadable),
      (["h", "t", "b.txt"], .directory), (["h", "t", "b.txt", "c.txt"], .file (.bytes [])),
      (["h", "t", "d.txt.x"], .file (.bytes []))]
    let w : Workspace := ⟨["h"], entries, by simp [entries]⟩
    let w' : Workspace := ⟨["h"], entries.reverse, by simp [entries]⟩
    w.isDirectory "t" ∧ w.testNames "t" = .ok ["Z.TXT", "a.txt"] ∧
      w'.testNames "t" = .ok ["Z.TXT", "a.txt"] := by
  intro entries w w'
  have hdirectory : w.isDirectory "t" := by decide
  have hnames : w.testNames "t" = .ok ["Z.TXT", "a.txt"] :=
    testNames_of_sorted hdirectory (by decide) (by decide)
  obtain ⟨names, hlisted, hlists⟩ := testNames_lists hdirectory
  obtain rfl := Except.ok.inj (hlisted.symm.trans hnames)
  exact ⟨hdirectory, hnames, hlists.unordered w' rfl (List.reverse_perm _)⟩

end Workspace

/-! ### Steps that stay -/

namespace Path

/-- A path behind so many steps that stay where they are. -/
def staying : Nat → Text → Text
  | 0, path => path
  | n + 1, path => '.' :: '/' :: staying n path

lemma length_encode_staying (n : Nat) (path : Text) :
    (Utf8.encode (staying n path)).length = 2 * n + (Utf8.encode path).length := by
  induction n with
  | zero => simp [staying]
  | succ n ih =>
    have hdot : (Utf8.encodeChar '.').length = 1 := rfl
    have hslash : (Utf8.encodeChar '/').length = 1 := rfl
    rw [staying, Utf8.encode_cons, Utf8.encode_cons, List.length_append, List.length_append, ih]
    omega

lemma isAbsolute_staying {path : Text} (h : isAbsolute path = false) (n : Nat) :
    isAbsolute (staying n path) = false := by
  cases n with
  | zero => exact h
  | succ n => rfl

lemma components_stay (path : Text) :
    components ('.' :: '/' :: path) = ['.'] :: components path :=
  components_append_slash ['.'] path

lemma origin_eq_home {path : Text} (h : isAbsolute path = false) (home : Location) :
    origin home path = home := by
  rw [origin, h]
  rfl

lemma location_staying {path : Text} (h : isAbsolute path = false) (home : Location) (n : Nat) :
    location home (staying n path) = location home path := by
  induction n with
  | zero => rfl
  | succ n ih =>
    rw [← ih, location, location, origin_eq_home (isAbsolute_staying h n), staying,
      components_stay]
    rfl

end Path

namespace Workspace

variable {w : Workspace}

/-- A path may begin with steps that stay until it is too long. -/
lemma isDirectory_staying {path : Text} (h : Path.isAbsolute path = false)
    (hdirectory : w.isDirectory path) {n : Nat}
    (hlength : 2 * n + (Utf8.encode path).length ≤ maxPathBytes) :
    w.isDirectory (Path.staying n path) := by
  obtain ⟨hreaches, hentry⟩ := isDirectory_iff.mp hdirectory
  refine isDirectory_iff.mpr ⟨?_, by rwa [Path.location_staying h]⟩
  have hhome : w.entry? w.home = some .directory := if_pos (by simp)
  refine ⟨?_, ?_, by rwa [Path.length_encode_staying], ?_⟩
  · induction n with
    | zero => exact hreaches.noNul
    | succ n ih => simpa [Path.staying] using ih (by omega)
  · cases n with
    | zero => exact hreaches.ne_nil
    | succ n => exact List.cons_ne_nil _ _
  · rw [Path.origin_eq_home (Path.isAbsolute_staying h n)]
    induction n with
    | zero => exact Path.origin_eq_home h w.home ▸ hreaches.passable
    | succ n ih =>
      rw [Path.staying, Path.components_stay]
      exact ⟨hhome, by decide, ih (by omega)⟩

/-- A file that has the name of a test is left out of the list of a directory whose path is as long
as the system allows. -/
theorem testNames_tooLong :
    let directory : Text := Path.staying 2047 "t"
    let w : Workspace := ⟨["h"], [(["h", "t"], .directory),
      (["h", "t", "a.txt"], .file (.bytes []))], by simp⟩
    w.isDirectory directory ∧ isTestName "a.txt" ∧
      w.entry? (Path.location w.home directory ++ [("a.txt" : Text)]) = some (.file (.bytes [])) ∧
      w.testNames directory = .ok [] := by
  intro directory w
  have hdirectory : w.isDirectory directory :=
    isDirectory_staying (show Path.isAbsolute "t" = false from rfl) (by decide) (by decide)
  have hlocation : Path.location w.home directory = [("h" : Text), ("t" : Text)] :=
    Path.location_staying rfl _ 2047
  have htest : isTestName "a.txt" := by decide
  have hname : IsFileName "a.txt" := ⟨by decide, by decide, by decide⟩
  have hfile : w.hasFile directory "a.txt" = false := by
    rw [Bool.eq_false_iff]
    intro h
    have hlength := ((hasFile_iff hdirectory hname htest).mp h).2
    have hjoin := Path.le_length_encode_join directory "a.txt"
    rw [Path.length_encode_staying] at hjoin
    exact absurd (hjoin.trans hlength) (by decide)
  refine ⟨hdirectory, htest, by rw [hlocation]; decide, ?_⟩
  refine testNames_of_sorted hdirectory ?_ .nil
  have hnames : w.names [("h" : Text), ("t" : Text)] = [("a.txt" : Text)] := by decide
  rw [hlocation, hnames, List.filter_singleton, hfile, Bool.and_false]
  rfl

end Workspace

end AsmLint
