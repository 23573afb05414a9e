import AsmLint.Proofs.Source.Resolving
import AsmLint.Recording.Directory

/-!
# Tests of a directory

A test of a directory is a file in it: the path of its name leads to where the directory stores it.
So it is found as long as it is there, whatever becomes of the other files.
-/

namespace AsmLint

/-! ### Paths of names -/

namespace Path

lemma components_append_slash (front behind : Text) :
    components (front ++ '/' :: behind) = components front ++ components behind :=
  List.splitOnP_append_cons front behind (by simp)

lemma components_eq_singleton {name : Text} (h : '/' ∉ name) : components name = [name] := by
  rw [components, List.splitOn_eq_splitOnP]
  apply List.splitOnP_eq_singleton
  intro c hc
  rw [beq_eq_false_iff_ne]
  rintro rfl
  exact h hc

lemma origin_append_slash (home : Location) (front behind : Text) :
    origin home (front ++ '/' :: behind) = origin home (front ++ ['/']) := by
  cases front <;> rfl

lemma origin_slash (home : Location) {path : Text} (h : path ≠ []) :
    origin home (path ++ ['/']) = origin home path := by
  cases path with
  | nil => exact absurd rfl h
  | cons c path => rfl

/-- What stands behind a slash is followed from the directory in front of it. -/
lemma location_append_slash (home : Location) (front behind : Text) :
    location home (front ++ '/' :: behind) =
      (components behind).foldl Location.step (location home (front ++ ['/'])) := by
  simp only [location, origin_append_slash, components_append_slash, List.foldl_append]
  rfl

lemma location_slash (home : Location) {path : Text} (h : path ≠ []) :
    location home (path ++ ['/']) = location home path := by
  simp only [location, origin_slash home h, components_append_slash, List.foldl_append]
  rfl

/-- A name is put behind the slash of a directory's path, or behind one that is added. -/
lemma exists_join {directory : Text} (h : directory ≠ []) :
    ∃ front, (directory = front ∨ directory = front ++ ['/']) ∧
      ∀ name, join directory name = front ++ '/' :: name := by
  by_cases hslash : directory.getLast? = some '/'
  · obtain ⟨front, rfl⟩ := List.getLast?_eq_some_iff.mp hslash
    refine ⟨front, .inr rfl, fun name => ?_⟩
    rw [join, if_pos (.inr hslash), List.append_assoc]
    rfl
  · refine ⟨directory, .inl rfl, fun name => ?_⟩
    rw [join, if_neg (not_or.mpr ⟨h, hslash⟩), List.append_assoc]
    rfl

/-- A name in a directory spells the location one component further. -/
theorem location_join (home : Location) (directory : Text) {name : Text} (h : '/' ∉ name) :
    location home (join directory name) = (location home directory).step name := by
  rw [join]
  split_ifs with hjoin
  · rcases hjoin with rfl | hslash
    · have horigin : origin home name = home := by
        refine if_neg fun hhead => h ?_
        exact List.mem_of_head? (of_decide_eq_true hhead)
      rw [List.nil_append, location, horigin, components_eq_singleton h]
      rfl
    · obtain ⟨front, rfl⟩ := List.getLast?_eq_some_iff.mp hslash
      rw [List.append_assoc, List.singleton_append, location_append_slash,
        components_eq_singleton h]
      rfl
  · rw [List.append_assoc]
    change location home (directory ++ '/' :: name) = _
    rw [location_append_slash, components_eq_singleton h, location_slash home (not_or.mp hjoin).1]
    rfl

end Path

/-! ### Names in a directory -/

/-- A name that a file system accepts. -/
structure IsFileName (name : Text) : Prop where
  noSlash : '/' ∉ name
  noNul : '\x00' ∉ name
  length_le : (Utf8.encode name).length ≤ maxNameBytes

/-- A name of more than two characters is neither `.` nor `..`. -/
lemma step_of_two_lt {name : Text} (h : 2 < name.length) (l : Location) :
    l.step name = l ++ [name] := by
  rw [Location.step, if_neg, if_neg]
  · rintro rfl
    exact absurd h (by decide)
  · rintro (rfl | rfl) <;> exact absurd h (by decide)

lemma step_of_isTestName {name : Text} (h : isTestName name) (l : Location) :
    l.step name = l ++ [name] := by
  have hlength : (name.drop (name.length - 4)).length = 4 := by
    rw [← List.length_map Char.toLower, of_decide_eq_true h]
    rfl
  rw [List.length_drop] at hlength
  exact step_of_two_lt (by omega) l

namespace Workspace

variable {w w' : Workspace} {directory name : Text} {names : List Text}

/-- From a directory every name can be followed. -/
lemma passable_join (hdirectory : w.isDirectory directory) (hname : IsFileName name) :
    w.Passable (Path.origin w.home (Path.join directory name))
      (Path.components (Path.join directory name)) := by
  obtain ⟨hreaches, hentry⟩ := isDirectory_iff.mp hdirectory
  obtain ⟨front, hfront, hjoin⟩ := Path.exists_join hreaches.ne_nil
  have horigin : Path.origin w.home (front ++ '/' :: name) = Path.origin w.home directory := by
    rw [Path.origin_append_slash]
    rcases hfront with rfl | rfl
    · exact Path.origin_slash w.home hreaches.ne_nil
    · rfl
  -- a slash at the end of the directory's path is a component that stays in the directory
  have hfollowed : w.Passable (Path.origin w.home directory) (Path.components front) ∧
      (Path.components front).foldl Location.step (Path.origin w.home directory) =
        Path.location w.home directory := by
    have hpassable := hreaches.passable
    rcases hfront with rfl | rfl
    · exact ⟨hpassable, rfl⟩
    · rw [Path.components_append_slash, passable_append] at hpassable
      refine ⟨hpassable.1, ?_⟩
      rw [Path.location, Path.components_append_slash, List.foldl_append]
      rfl
  rw [hjoin, horigin, Path.components_append_slash, Path.components_eq_singleton hname.noSlash,
    passable_append, hfollowed.2]
  exact ⟨hfollowed.1, hentry, hname.length_le, trivial⟩

/-- The path of a name in a directory can be followed unless it is too long. -/
lemma reaches_join (hdirectory : w.isDirectory directory) (hname : IsFileName name) :
    w.Reaches (Path.join directory name) ↔
      (Utf8.encode (Path.join directory name)).length ≤ maxPathBytes := by
  refine ⟨fun h => h.length_le, fun hlength => ?_⟩
  obtain ⟨hreaches, -⟩ := isDirectory_iff.mp hdirectory
  obtain ⟨front, hfront, hjoin⟩ := Path.exists_join hreaches.ne_nil
  refine ⟨?_, by simp [hjoin], hlength, passable_join hdirectory hname⟩
  have hnul := hreaches.noNul
  rw [hjoin]
  rcases hfront with rfl | rfl <;> simp_all [hname.noNul]

/-- The path of a name in a directory leads to the file under that name, if it is not too long. -/
lemma file?_join (hdirectory : w.isDirectory directory) (hname : IsFileName name)
    (hstep : ∀ l : Location, l.step name = l ++ [name]) {f : StoredFile} :
    w.file? (Path.join directory name) = some f ↔
      w.entry? (Path.location w.home directory ++ [name]) = some (.file f) ∧
        (Utf8.encode (Path.join directory name)).length ≤ maxPathBytes := by
  rw [file?_eq_some, reaches_join hdirectory hname, Path.location_join _ _ hname.noSlash, hstep,
    and_comm]

lemma mem_names {l : Location} {name : Text} :
    name ∈ w.names l ↔ ∃ e, (l ++ [name], e) ∈ w.entries := by
  rw [Workspace.names, List.mem_filterMap]
  constructor
  · rintro ⟨⟨m, e⟩, hmem, hname⟩
    split_ifs at hname with hm
    obtain ⟨front, rfl⟩ := List.getLast?_eq_some_iff.mp hname
    rw [List.dropLast_concat] at hm
    exact ⟨e, hm ▸ hmem⟩
  · rintro ⟨e, hmem⟩
    exact ⟨_, hmem, by simp⟩

lemma mem_entries_of_file {l : Location} {f : StoredFile} (h : w.entry? l = some (.file f)) :
    (l, .file f) ∈ w.entries := by
  unfold entry? at h
  split_ifs at h with hhome
  · cases h
  obtain ⟨xs, ys, hentries, -⟩ := List.lookup_eq_some_iff.mp h
  simp [hentries]

lemma testNames_eq_ok :
    w.testNames directory = .ok names ↔
      w.isDirectory directory ∧
        names = sortNames ((w.names (Path.location w.home directory)).filter fun name =>
          isTestName name && w.hasFile directory name) := by
  rw [Workspace.testNames, isDirectory_iff]
  constructor
  · intro h
    split at h
    · cases h
    · cases h
    · rename_i l hresolve
      obtain ⟨hreaches, rfl, hentry⟩ := resolve_eq_ok.mp hresolve
      exact ⟨⟨hreaches, hentry⟩, (Except.ok.inj h).symm⟩
  · rintro ⟨⟨hreaches, hentry⟩, rfl⟩
    rw [resolve_eq_ok.mpr ⟨hreaches, rfl, hentry⟩]

/-- Names that stand in their order already are found in this order. -/
lemma testNames_of_sorted (hdirectory : w.isDirectory directory)
    (hnames : ((w.names (Path.location w.home directory)).filter fun name =>
      isTestName name && w.hasFile directory name) = names)
    (hsorted : names.Pairwise fun a b => ¬b < a) : w.testNames directory = .ok names := by
  refine testNames_eq_ok.mpr ⟨hdirectory, ?_⟩
  rw [hnames, sortNames, List.mergeSort_of_pairwise]
  simpa using hsorted

/-- The tests of a directory are the files that are stored in it by the name of a test. -/
theorem mem_testNames (h : w.testNames directory = .ok names) {name : Text} :
    name ∈ names ↔
      isTestName name ∧ w.hasFile directory name ∧
        ∃ e, (Path.location w.home directory ++ [name], e) ∈ w.entries := by
  obtain ⟨-, rfl⟩ := testNames_eq_ok.mp h
  rw [mem_sortNames, List.mem_filter, mem_names, Bool.and_eq_true, and_comm, and_assoc]

/-- A test that is kept is found again. -/
theorem AgreeOn.testNames {kept : Location → Prop} (h : AgreeOn kept w w')
    (hnames : w.testNames directory = .ok names) {name : Text} (hname : name ∈ names)
    (hslash : '/' ∉ name) (hkept : kept (Path.location w.home (Path.join directory name))) :
    ∃ names', w'.testNames directory = .ok names' ∧ name ∈ names' := by
  have hdirectory := (h.isDirectory_iff directory).mpr (testNames_eq_ok.mp hnames).1
  refine ⟨_, testNames_eq_ok.mpr ⟨hdirectory, rfl⟩, ?_⟩
  obtain ⟨htest, hfile, -⟩ := (mem_testNames hnames).mp hname
  obtain ⟨f, hf⟩ := Option.isSome_iff_exists.mp hfile
  rw [← h.file?_eq hkept] at hf
  refine (mem_testNames (testNames_eq_ok.mpr ⟨hdirectory, rfl⟩)).mpr ⟨htest, ?_, .file f, ?_⟩
  · exact Option.isSome_iff_exists.mpr ⟨f, hf⟩
  · have hentry := mem_entries_of_file (file?_eq_some.mp hf).2
    rwa [Path.location_join _ _ hslash, step_of_isTestName htest] at hentry

end Workspace

end AsmLint
