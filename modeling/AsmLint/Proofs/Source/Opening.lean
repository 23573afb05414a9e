import AsmLint.Workspace.Open
import AsmLint.Proofs.Text.Lines

/-!
# Opening a source and reading it

A source is closed for one of four reasons, of which the first that applies is told, and else it
delivers raw lines. A raw line holds no terminator but one at its end, and so what is left of it
without that one, and cut to any length, is unbroken.
-/

namespace AsmLint

/-! ### Raw lines -/

/-- Whether no line ends in a text except at its own end. -/
def IsRawLine (raw : Text) : Prop :=
  ∃ u e, Unbroken u ∧ (e = [] ∨ Ends e []) ∧ raw = u ++ e

lemma isRawLine_of_mem_rawLines {t raw : Text} (h : raw ∈ rawLines t) : IsRawLine raw := by
  induction t using lines_induction with
  | last u hu =>
    rw [rawLines_unbroken hu] at h
    split_ifs at h
    · simp at h
    · rw [List.mem_singleton.mp h]
      exact ⟨u, [], hu, .inl rfl, (List.append_nil u).symm⟩
  | line u e t hu he ih =>
    rw [rawLines_append hu he] at h
    rcases List.mem_cons.mp h with rfl | h
    · refine ⟨u, e, hu, .inr ?_, rfl⟩
      cases he with
      | lf => exact .lf []
      | crlf => exact .crlf []
      | cr => exact .cr (by simp)
    · exact ih h

lemma IsRawLine.unbroken {raw : Text} (h : IsRawLine raw) (limit : Option Nat) :
    Unbroken (statementLine limit raw) := by
  have hdrop : Unbroken (dropTerminator raw) := by
    obtain ⟨u, e, hu, rfl | he, rfl⟩ := h
    · rw [List.append_nil, dropTerminator_unbroken hu]
      exact hu
    · rw [dropTerminator_append hu he]
      exact hu
  cases limit with
  | none => exact hdrop
  | some n => exact hdrop.subset (List.take_subset n _)

/-! ### Failures -/

namespace SystemError

/-- The reason that belongs to the number of a failure, if it has one. -/
def strerror? : SystemError → Option Text
  | numbered _ reason => some reason
  | _ => none

/-- What is told of a failure: its reason where that is given and not empty, and else all of it. -/
lemma reason_eq (e : SystemError) : e.reason = (e.strerror?.filter (· ≠ [])).getD e.message := by
  cases e with
  | unexplained => rfl
  | described text => rfl
  | numbered code reason => cases reason <;> rfl

end SystemError

/-! ### Opening -/

namespace Workspace

/-- Why the source under a path cannot be opened. -/
inductive Closed (w : Workspace) (path : Text) : Text → Prop where
  | missing (hfile : w.isFile path = false) (hdirectory : w.isDirectory path = false) :
      Closed w path "file not found"
  | notRegular (hdirectory : w.isDirectory path = true) : Closed w path "not a regular file"
  | unreadable (hfile : w.file? path = some .unreadable) : Closed w path "file is not readable"
  | unopenable {e : SystemError} (hfile : w.file? path = some (.unopenable e)) :
      Closed w path ((e.strerror?.filter (· ≠ [])).getD e.message)

/-- What a path leads to decides what opening it comes to. -/
lemma sourceAt_cases (w : Workspace) (path : Text) :
    (w.file? path = none ∧ w.isDirectory path = false ∧ w.sourceAt path = .error ⟨path, .missing⟩) ∨
      (w.file? path = none ∧ w.isDirectory path = true ∧
        w.sourceAt path = .error ⟨path, .notRegular⟩) ∨
      ∃ f, w.file? path = some f ∧ w.isDirectory path = false ∧
        w.sourceAt path = f.feed.mapError (⟨path, ·⟩) := by
  unfold file? isDirectory sourceAt
  cases w.resolve path with
  | error e => exact .inl ⟨rfl, rfl, rfl⟩
  | ok found =>
    obtain ⟨l, entry⟩ := found
    cases entry with
    | directory => exact .inr (.inl ⟨rfl, rfl, rfl⟩)
    | file f => exact .inr (.inr ⟨f, rfl, rfl, rfl⟩)

lemma path_of_sourceAt {w : Workspace} {path : Text} {u : Unavailable}
    (h : w.sourceAt path = .error u) : u.path = path := by
  obtain ⟨-, -, hs⟩ | ⟨-, -, hs⟩ | ⟨f, -, -, hs⟩ := sourceAt_cases w path
  · rw [hs] at h
    obtain rfl := Except.error.inj h
    rfl
  · rw [hs] at h
    obtain rfl := Except.error.inj h
    rfl
  · rw [hs] at h
    cases hf : f.feed with
    | ok feed => simp [hf, Except.mapError] at h
    | error why =>
      rw [hf] at h
      obtain rfl := Except.error.inj h
      rfl

/-- A source is closed just when opening it fails, and the failure tells the path and the reason. -/
theorem closed_iff {w : Workspace} {path reason : Text} :
    w.Closed path reason ↔
      ∃ u, w.sourceAt path = .error u ∧ u.path = path ∧ u.why.reason = reason := by
  obtain ⟨hf, hd, hs⟩ | ⟨hf, hd, hs⟩ | ⟨f, hf, hd, hs⟩ := sourceAt_cases w path
  · rw [hs]
    constructor
    · rintro (_ | h | h | h)
      · exact ⟨_, rfl, rfl, rfl⟩
      · exact absurd (hd.symm.trans h) Bool.false_ne_true
      · cases hf.symm.trans h
      · cases hf.symm.trans h
    · rintro ⟨u, ⟨⟩, -, rfl⟩
      exact .missing (by rw [isFile, hf]; rfl) hd
  · rw [hs]
    constructor
    · rintro (⟨-, h⟩ | _ | h | h)
      · exact absurd (h.symm.trans hd) Bool.false_ne_true
      · exact ⟨_, rfl, rfl, rfl⟩
      · cases hf.symm.trans h
      · cases hf.symm.trans h
    · rintro ⟨u, ⟨⟩, -, rfl⟩
      exact .notRegular hd
  · rw [hs]
    constructor
    · rintro (⟨h, -⟩ | h | h | h)
      · rw [isFile, hf] at h
        cases h
      · exact absurd (hd.symm.trans h) Bool.false_ne_true
      · obtain rfl := Option.some.inj (hf.symm.trans h)
        exact ⟨_, rfl, rfl, rfl⟩
      · obtain rfl := Option.some.inj (hf.symm.trans h)
        exact ⟨_, rfl, rfl, SystemError.reason_eq _⟩
    · cases f with
      | bytes content => rintro ⟨u, ⟨⟩, -⟩
      | delivers feed => rintro ⟨u, ⟨⟩, -⟩
      | unreadable =>
        rintro ⟨u, ⟨⟩, -, rfl⟩
        exact .unreadable hf
      | unopenable e =>
        rintro ⟨u, hu, -, rfl⟩
        obtain rfl : (⟨path, .system e⟩ : Unavailable) = u := Except.error.inj hu
        change w.Closed path e.reason
        rw [SystemError.reason_eq]
        exact .unopenable hf

end Workspace

end AsmLint
