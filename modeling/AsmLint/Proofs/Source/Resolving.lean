import AsmLint.Workspace.Basic
import Mathlib.Tactic.Lemma
import Mathlib.Tactic.SplitIfs

/-!
# What paths lead to

A path leads through directories alone to the location that it spells, and what it leads to is what
is stored there. So of two workspaces with the same directories a path leads to the same in both, if
both hold the same at its location; the other files do not matter.
-/

namespace AsmLint

namespace Workspace

variable {w w' : Workspace}

/-! ### Following components -/

/-- Whether every step from a location starts from a directory, by a component of legal length. -/
def Passable (w : Workspace) (l : Location) : List Text → Prop
  | [] => True
  | component :: rest =>
    w.entry? l = some .directory ∧ (Utf8.encode component).length ≤ maxNameBytes ∧
      w.Passable (l.step component) rest

lemma walk_eq_ok {l m : Location} {e : Entry} {components : List Text} :
    w.walk l components = .ok (m, e) ↔
      w.Passable l components ∧ m = components.foldl Location.step l ∧ w.entry? m = some e := by
  induction components generalizing l with
  | nil =>
    rw [walk, Passable, List.foldl_nil, true_and]
    cases hentry : w.entry? l with
    | none =>
      simp only [reduceCtorEq, false_iff, not_and]
      rintro rfl
      simp [hentry]
    | some entry =>
      simp only [Except.ok.injEq, Prod.mk.injEq]
      constructor
      · rintro ⟨rfl, rfl⟩
        exact ⟨rfl, hentry⟩
      · rintro ⟨rfl, h⟩
        exact ⟨rfl, Option.some.inj (hentry.symm.trans h)⟩
  | cons component rest ih =>
    rw [walk, Passable, List.foldl_cons]
    cases hentry : w.entry? l with
    | none => simp
    | some entry =>
      cases entry with
      | file f => simp
      | directory =>
        simp only
        split_ifs with hlong
        · simp [Nat.not_le.mpr hlong]
        · rw [ih]
          simp [Nat.not_lt.mp hlong]

/-- Directories alone decide which steps can be taken. -/
lemma passable_congr (h : ∀ l, w'.entry? l = some .directory ↔ w.entry? l = some .directory)
    (l : Location) (components : List Text) :
    w'.Passable l components ↔ w.Passable l components := by
  induction components generalizing l with
  | nil => rfl
  | cons component rest ih => rw [Passable, Passable, h, ih]

lemma passable_append {l : Location} {components rest : List Text} :
    w.Passable l (components ++ rest) ↔
      w.Passable l components ∧ w.Passable (components.foldl Location.step l) rest := by
  induction components generalizing l with
  | nil => simp [Passable]
  | cons component components ih =>
    rw [List.cons_append, Passable, Passable, ih, List.foldl_cons, and_assoc, and_assoc]

/-- Whether a path is one that the system accepts, and can be followed to its end. -/
structure Reaches (w : Workspace) (path : Text) : Prop where
  noNul : '\x00' ∉ path
  ne_nil : path ≠ []
  length_le : (Utf8.encode path).length ≤ maxPathBytes
  passable : w.Passable (Path.origin w.home path) (Path.components path)

/-- What a path leads to stands at the location that the path spells. -/
theorem resolve_eq_ok {path : Text} {l : Location} {e : Entry} :
    w.resolve path = .ok (l, e) ↔
      w.Reaches path ∧ l = Path.location w.home path ∧ w.entry? l = some e := by
  unfold resolve
  constructor
  · intro h
    split_ifs at h with hnul hnil hlong
    obtain ⟨hpass, hl, he⟩ := walk_eq_ok.mp h
    exact ⟨⟨by simpa using hnul, hnil, Nat.not_lt.mp hlong, hpass⟩, hl, he⟩
  · rintro ⟨h, hl, he⟩
    rw [if_neg (by simpa using h.noNul), if_neg h.ne_nil, if_neg (Nat.not_lt.mpr h.length_le)]
    exact walk_eq_ok.mpr ⟨h.passable, hl, he⟩

lemma file?_eq_some {path : Text} {f : StoredFile} :
    w.file? path = some f ↔
      w.Reaches path ∧ w.entry? (Path.location w.home path) = some (.file f) := by
  rw [file?]
  constructor
  · intro h
    split at h
    · rename_i l g hresolve
      obtain ⟨hreaches, rfl, hentry⟩ := resolve_eq_ok.mp hresolve
      rw [← Option.some.inj h]
      exact ⟨hreaches, hentry⟩
    · cases h
  · rintro ⟨hreaches, hentry⟩
    rw [resolve_eq_ok.mpr ⟨hreaches, rfl, hentry⟩]

lemma isDirectory_iff {path : Text} :
    w.isDirectory path ↔
      w.Reaches path ∧ w.entry? (Path.location w.home path) = some .directory := by
  rw [isDirectory]
  constructor
  · intro h
    split at h
    · rename_i l hresolve
      obtain ⟨hreaches, rfl, hentry⟩ := resolve_eq_ok.mp hresolve
      exact ⟨hreaches, hentry⟩
    · cases h
  · rintro ⟨hreaches, hentry⟩
    rw [resolve_eq_ok.mpr ⟨hreaches, rfl, hentry⟩]

/-! ### Workspaces that agree -/

/-- Two workspaces that hold the same directories, and the same at the given locations. -/
structure AgreeOn (kept : Location → Prop) (w w' : Workspace) : Prop where
  home : w'.home = w.home
  directory : ∀ l, w'.entry? l = some .directory ↔ w.entry? l = some .directory
  kept : ∀ l, kept l → w'.entry? l = w.entry? l

namespace AgreeOn

variable {kept : Location → Prop}

lemma reaches_iff (h : AgreeOn kept w w') (path : Text) : w'.Reaches path ↔ w.Reaches path := by
  have hpass := passable_congr h.directory (Path.origin w.home path) (Path.components path)
  constructor
  · rintro ⟨hnul, hnil, hlength, h'⟩
    rw [h.home] at h'
    exact ⟨hnul, hnil, hlength, hpass.mp h'⟩
  · rintro ⟨hnul, hnil, hlength, h'⟩
    refine ⟨hnul, hnil, hlength, ?_⟩
    rw [h.home]
    exact hpass.mpr h'

/-- A path whose location is kept leads to the same file. -/
theorem file?_eq (h : AgreeOn kept w w') {path : Text} (hpath : kept (Path.location w.home path)) :
    w'.file? path = w.file? path := by
  apply Option.ext
  intro f
  rw [file?_eq_some, file?_eq_some, h.reaches_iff, h.home, h.kept _ hpath]

lemma isDirectory_iff (h : AgreeOn kept w w') (path : Text) :
    w'.isDirectory path ↔ w.isDirectory path := by
  rw [Workspace.isDirectory_iff, Workspace.isDirectory_iff, h.reaches_iff, h.home, h.directory]

lemma trans {w'' : Workspace} (h : AgreeOn kept w w') (h' : AgreeOn kept w' w'') :
    AgreeOn kept w w'' where
  home := h'.home.trans h.home
  directory l := (h'.directory l).trans (h.directory l)
  kept l hl := (h'.kept l hl).trans (h.kept l hl)

end AgreeOn

/-! ### Single changes -/

variable {l : Location}

lemma entry_eq_lookup (h : l.isPrefixOf w.home = false) : w.entry? l = w.entries.lookup l :=
  if_neg (by simp [h])

lemma not_prefix_home (h : w.entry? l ≠ some .directory) : l.isPrefixOf w.home = false := by
  rw [Bool.eq_false_iff]
  intro hprefix
  exact h (if_pos hprefix)

lemma lookup_eraseAt {m : Location} (h : m ≠ l) :
    (w.eraseAt l).entries.lookup m = w.entries.lookup m := by
  change (w.entries.filter (·.1 ≠ l)).lookup m = _
  induction w.entries with
  | nil => rfl
  | cons x xs ih =>
    obtain ⟨n, e⟩ := x
    by_cases hn : n = l
    · have hm : (m == n) = false := by simpa [hn] using h
      rw [List.filter_cons_of_neg (by simpa using hn), ih, List.lookup_cons, hm]
    · rw [List.filter_cons_of_pos (by simpa using hn), List.lookup_cons, List.lookup_cons, ih]

lemma entry_eraseAt {m : Location} (h : m ≠ l) : entry? (w.eraseAt l) m = w.entry? m := by
  unfold entry?
  rw [lookup_eraseAt h]
  rfl

lemma entry_insertAt {m : Location} {e : Entry} (h : m ≠ l) :
    entry? (w.insertAt l e) m = w.entry? m := by
  have hlookup : (w.insertAt l e).entries.lookup m = w.entries.lookup m := by
    change List.lookup m ((l, e) :: (w.eraseAt l).entries) = _
    rw [List.lookup_cons, beq_false_of_ne h]
    exact lookup_eraseAt h
  unfold entry?
  rw [hlookup]
  rfl

/-- Whatever is done about the file at a location that is not kept, the rest stays as it was. -/
lemma agreeOn_of_ne {kept : Location → Prop} (hhome : w'.home = w.home)
    (hl : w.entry? l ≠ some .directory) (hl' : w'.entry? l ≠ some .directory) (hkept : ¬kept l)
    (h : ∀ m, m ≠ l → w'.entry? m = w.entry? m) : AgreeOn kept w w' where
  home := hhome
  directory m := by
    by_cases hm : m = l
    · rw [hm]
      exact iff_of_false hl' hl
    · rw [h m hm]
  kept m hm := h m fun heq => hkept (heq ▸ hm)

/-- A file is added or changed. -/
lemma agreeOn_insertAt {kept : Location → Prop} (hl : w.entry? l ≠ some .directory)
    (hkept : ¬kept l) (f : StoredFile) : AgreeOn kept w (w.insertAt l (.file f)) := by
  refine agreeOn_of_ne rfl hl ?_ hkept fun m => entry_insertAt
  have hentry : entry? (w.insertAt l (.file f)) l = some (.file f) := by
    rw [entry_eq_lookup (w := w.insertAt l _) (not_prefix_home (w := w) hl)]
    exact List.lookup_cons_self
  simp [hentry]

/-- A file is removed. -/
lemma agreeOn_eraseAt {kept : Location → Prop} (hl : w.entry? l ≠ some .directory)
    (hkept : ¬kept l) : AgreeOn kept w (w.eraseAt l) := by
  refine agreeOn_of_ne rfl hl ?_ hkept fun m => entry_eraseAt
  rw [entry_eq_lookup (w := w.eraseAt l) (not_prefix_home (w := w) hl), Ne,
    List.lookup_eq_some_iff]
  rintro ⟨xs, ys, hentries, -⟩
  have hmem : (l, Entry.directory) ∈ (w.eraseAt l).entries := by simp [hentries]
  simp [eraseAt] at hmem

end Workspace

end AsmLint
