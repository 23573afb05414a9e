import AsmLint.Proofs.Text.ReportLines
import AsmLint.Recording.Comparison
import Mathlib.Tactic.SplitIfs

/-!
# Differences between reports

Two reports are compared line by line as far as both reach, and by their numbers of lines behind
that. So what is told of two that differ is the first position at which both have a line and the two
lines differ, or, if there is no such position, that one report is a beginning of the other.
-/

namespace AsmLint

/-! ### The first difference -/

/-- The first position, counted from 0, at which two lists of lines differ, and the lines there. -/
structure FirstDifference (want got : List Text) (i : Nat) (w g : Text) : Prop where
  expected : want[i]? = some w
  actual : got[i]? = some g
  ne : w ≠ g
  least : ∀ j < i, want[j]? = got[j]?

namespace Difference

lemma first?_eq_none_iff {number : Nat} {want got : List Text} :
    first? number want got = none ↔ want <+: got ∨ got <+: want := by
  induction want generalizing number got with
  | nil => simp [first?]
  | cons w want ih =>
    cases got with
    | nil => simp [first?]
    | cons g got =>
      rw [first?]
      split_ifs with hw
      · simp only [ih, hw, List.cons_prefix_cons, true_and]
      · simp [List.cons_prefix_cons, hw, Ne.symm hw]

/-- What is found is the first difference, counted from the given number. -/
lemma firstDifference_of_first? {number : Nat} {want got : List Text} {d : Difference}
    (h : first? number want got = some d) :
    ∃ i w g, FirstDifference want got i w g ∧ d = .line (number + i) w g := by
  induction want generalizing number got with
  | nil => cases h
  | cons w want ih =>
    cases got with
    | nil => cases h
    | cons g got =>
      rw [first?] at h
      split_ifs at h with hw
      · obtain ⟨i, w', g', hfirst, rfl⟩ := ih h
        refine ⟨i + 1, w', g', ⟨hfirst.expected, hfirst.actual, hfirst.ne, ?_⟩, ?_⟩
        · intro j hj
          cases j with
          | zero => simp [hw]
          | succ j => exact hfirst.least j (Nat.lt_of_succ_lt_succ hj)
        · rw [Nat.add_assoc, Nat.add_comm 1 i]
      · refine ⟨0, w, g, ⟨rfl, rfl, hw, fun j hj => absurd hj (Nat.not_lt_zero j)⟩, ?_⟩
        exact (Option.some.inj h).symm

/-- Where two lists differ, neither is a beginning of the other. -/
lemma not_prefix_of_ne {want got : List Text} {i : Nat} {w g : Text} (hw : want[i]? = some w)
    (hg : got[i]? = some g) (hne : w ≠ g) : ¬want <+: got := by
  rintro ⟨rest, rfl⟩
  obtain ⟨hi, -⟩ := List.getElem?_eq_some_iff.mp hw
  rw [List.getElem?_append_left hi, hw] at hg
  exact hne (Option.some.inj hg)

/-! ### Lists of lines -/

lemma ofLines_eq_count {want got : List Text} (hne : want ≠ got)
    (h : want <+: got ∨ got <+: want) :
    ofLines want got = some (.count want.length got.length) := by
  have hlength : want.length ≠ got.length := by
    intro hlength
    rcases h with h | h
    · exact hne (h.eq_of_length hlength)
    · exact hne (h.eq_of_length hlength.symm).symm
  rw [ofLines, first?_eq_none_iff.mpr h]
  exact if_neg hlength

lemma ofLines_eq_line {want got : List Text} {i : Nat} {w g : Text} (hw : want[i]? = some w)
    (hg : got[i]? = some g) (hne : w ≠ g) :
    ∃ j v u, FirstDifference want got j v u ∧ ofLines want got = some (.line (j + 1) v u) := by
  cases hfirst : first? 1 want got with
  | none =>
    rcases first?_eq_none_iff.mp hfirst with h | h
    · exact absurd h (not_prefix_of_ne hw hg hne)
    · exact absurd h (not_prefix_of_ne hg hw hne.symm)
  | some d =>
    obtain ⟨j, v, u, hdifference, rfl⟩ := firstDifference_of_first? hfirst
    exact ⟨j, v, u, hdifference, by rw [ofLines, hfirst, Nat.add_comm 1 j]⟩

lemma ofLines_eq_none_iff {want got : List Text} : ofLines want got = none ↔ want = got := by
  constructor
  · intro h
    by_contra hne
    cases hfirst : first? 1 want got with
    | none => simp [ofLines_eq_count hne (first?_eq_none_iff.mp hfirst)] at h
    | some d => simp [ofLines, hfirst] at h
  · rintro rfl
    simp [ofLines]

lemma message_ne_nil (d : Difference) : d.message ≠ [] := by
  cases d with
  | line number expected actual => exact List.cons_ne_nil 'r' _
  | count expected actual => exact List.cons_ne_nil 'e' _

/-! ### What is told -/

/-- What is told of two reports with the given lines. -/
structure Tells (want got : List Text) (told : Option Text) : Prop where
  /-- Nothing, if the lines are the same; -/
  same : told = none ↔ want = got
  /-- the first position at which two lines differ, if there is one, counted from 1; -/
  line : (∃ (i : Nat) (w g : Text), want[i]? = some w ∧ got[i]? = some g ∧ w ≠ g) →
    ∃ i w g, FirstDifference want got i w g ∧
      told = some ("report line " ++ decimal (i + 1) ++ ": expected " ++ quoted w ++ ", got " ++
        quoted g)
  /-- and the two numbers of lines, if one report goes on where the other ends. -/
  count : want ≠ got → want <+: got ∨ got <+: want →
    told = some ("expected " ++ decimal want.length ++ " report lines, got " ++
      decimal got.length)
  /-- There is no other case. -/
  exhaustive : want = got ∨
    (∃ (i : Nat) (w g : Text), want[i]? = some w ∧ got[i]? = some g ∧ w ≠ g) ∨
    want <+: got ∨ got <+: want

lemma tells_ofLines (want got : List Text) :
    Tells want got ((ofLines want got).map message) where
  same := by rw [Option.map_eq_none_iff, ofLines_eq_none_iff]
  line := by
    rintro ⟨i, w, g, hw, hg, hne⟩
    obtain ⟨j, v, u, hdifference, htold⟩ := ofLines_eq_line hw hg hne
    refine ⟨j, v, u, hdifference, ?_⟩
    rw [htold]
    rfl
  count hne hprefix := by
    rw [ofLines_eq_count hne hprefix]
    rfl
  exhaustive := by
    cases hfirst : first? 1 want got with
    | none => exact .inr (.inr (first?_eq_none_iff.mp hfirst))
    | some d =>
      obtain ⟨i, w, g, hdifference, -⟩ := firstDifference_of_first? hfirst
      exact .inr (.inl ⟨i, w, g, hdifference.expected, hdifference.actual, hdifference.ne⟩)

/-- Of any two reports the first difference between their lines is told, so to be the same is an
equivalence of reports. -/
theorem ofReports_tells (expected actual : Text) :
    Tells (reportLines expected) (reportLines actual)
        ((Difference.ofReports expected actual).map message) ∧
      (∀ t ls, reportLines t = ls ↔ HasReportLines t ls) ∧
      Equivalence fun s t => Difference.ofReports s t = none := by
  refine ⟨tells_ofLines _ _, fun t ls => hasReportLines_iff.symm, ?_⟩
  simp only [ofReports, ofLines_eq_none_iff]
  exact ⟨fun _ => rfl, Eq.symm, Eq.trans⟩

/-- Breaks of two kinds, and a difference behind them. -/
example : Difference.ofReports "A\x0bB\r\nC\n" "A\nB\x0bD" = some (.line 3 "C" "D") := by decide

end Difference

end AsmLint
