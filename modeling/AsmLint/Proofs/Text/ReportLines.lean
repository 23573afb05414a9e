import AsmLint.Proofs.Text.Lines
import Mathlib.Data.List.Forall2

/-!
# Lines of a stored report

The lines of a stored report are what stands in front of its breaks, and behind the last one if
anything does; a break is one character, or a carriage return and the line feed behind it. A text
without carriage returns is cut after every single character that ends a line, and the lines do not
tell which character that was. So two such texts have the same lines just when they differ in
nothing else, provided that both end where a line ends.
-/

namespace AsmLint

/-! ### Separators that leave no trace -/

section

variable {α : Type} {p : α → Bool}

lemma splitOnP_cons_sep {a : α} (ha : p a) (t : List α) :
    (a :: t).splitOnP p = [] :: t.splitOnP p := by
  simp [List.splitOnP_cons_eq_if_modifyHead, ha]

lemma splitOnP_cons_other {a : α} (ha : p a = false) (t : List α) :
    (a :: t).splitOnP p = (t.splitOnP p).modifyHead (a :: ·) := by
  simp [List.splitOnP_cons_eq_if_modifyHead, ha]

lemma exists_splitOnP_cons (p : α → Bool) (t : List α) : ∃ w ws, t.splitOnP p = w :: ws :=
  List.exists_cons_of_ne_nil (List.splitOnP_ne_nil p t)

/-- The parts of a split are those of another list just when the two differ at separators only. -/
theorem splitOnP_eq_splitOnP_iff {s t : List α} :
    s.splitOnP p = t.splitOnP p ↔ List.Forall₂ (fun a b => a = b ∨ p a ∧ p b) s t := by
  induction s generalizing t with
  | nil =>
    cases t with
    | nil => simp
    | cons b t =>
      obtain ⟨w, ws, hw⟩ := exists_splitOnP_cons p t
      by_cases hb : p b
      · simp [splitOnP_cons_sep hb, hw]
      · simp [splitOnP_cons_other (Bool.eq_false_iff.mpr hb), hw]
  | cons a s ih =>
    obtain ⟨v, vs, hv⟩ := exists_splitOnP_cons p s
    cases t with
    | nil =>
      by_cases ha : p a
      · simp [splitOnP_cons_sep ha, hv]
      · simp [splitOnP_cons_other (Bool.eq_false_iff.mpr ha), hv]
    | cons b t =>
      obtain ⟨w, ws, hw⟩ := exists_splitOnP_cons p t
      rw [List.forall₂_cons, ← ih, hv, hw]
      -- a separator leaves an empty part in front, any other element stays in the first part
      by_cases ha : p a <;> by_cases hb : p b
      · simp [splitOnP_cons_sep ha, splitOnP_cons_sep hb, ha, hb, hv, hw]
      · have hne : a ≠ b := fun h => hb (h ▸ ha)
        simp [splitOnP_cons_sep ha, splitOnP_cons_other (Bool.eq_false_iff.mpr hb), hb, hw, hne]
      · have hne : a ≠ b := fun h => ha (h ▸ hb)
        simp [splitOnP_cons_sep hb, splitOnP_cons_other (Bool.eq_false_iff.mpr ha), ha, hv, hne]
      · simp [splitOnP_cons_other (Bool.eq_false_iff.mpr ha),
          splitOnP_cons_other (Bool.eq_false_iff.mpr hb), ha, hv, hw, and_assoc]

end

/-! ### Report lines -/

lemma isReportBreak_newline : isReportBreak '\n' = true := by decide

/-- A character that ends a line leaves an empty line in front, if it is no carriage return that a
line feed follows. -/
lemma reportLines_cons_break {c : Char} (hc : isReportBreak c) {t : Text}
    (ht : c = '\r' → t.head? ≠ some '\n') : reportLines (c :: t) = [] :: reportLines t := by
  rw [reportLines, pieces_cons, reportLines]
  cases hp : pieces isReportBreak t with
  | nil => simp [consPiece, dropBreak, hc]
  | cons p ps =>
    have hapart : c ≠ '\r' ∨ p ≠ ['\n'] := by
      rw [← not_and_or]
      rintro ⟨hr, rfl⟩
      exact ht hr (head?_of_pieces hp)
    simp [consPiece, dropBreak, hc, hapart]

/-- A carriage return and the line feed behind it are one break. -/
lemma reportLines_crlf (t : Text) : reportLines ('\r' :: '\n' :: t) = [] :: reportLines t := by
  have hreturn : isReportBreak '\r' = true := by decide
  rw [reportLines, pieces_cons, pieces_cons, reportLines]
  cases pieces isReportBreak t <;>
    simp [consPiece, dropBreak, hreturn, isReportBreak_newline]

lemma reportLines_cons {c : Char} (hc : isReportBreak c = false) (t : Text) :
    reportLines (c :: t) = consLine c (reportLines t) := by
  rw [reportLines, pieces_cons, reportLines]
  cases pieces isReportBreak t <;> simp [consPiece, consLine, dropBreak, hc]

lemma reportLines_eq_nil {t : Text} : reportLines t = [] ↔ t = [] := by
  constructor
  · intro h
    rw [← flatten_pieces isReportBreak t, List.map_eq_nil_iff.mp h, List.flatten_nil]
  · rintro rfl
    rfl

lemma reportLines_append {l : Text} (hl : ∀ c ∈ l, isReportBreak c = false) {t m : Text}
    {ms : List Text} (ht : reportLines t = m :: ms) : reportLines (l ++ t) = (l ++ m) :: ms := by
  induction l with
  | nil => exact ht
  | cons c l ih =>
    obtain ⟨hc, hl⟩ := List.forall_mem_cons.mp hl
    rw [List.cons_append, reportLines_cons hc, ih hl, consLine, List.cons_append]

lemma reportLines_last {l : Text} (hne : l ≠ []) (hl : ∀ c ∈ l, isReportBreak c = false) :
    reportLines l = [l] := by
  obtain ⟨c, l, rfl⟩ := List.exists_cons_of_ne_nil hne
  induction l generalizing c with
  | nil =>
    rw [reportLines_cons (hl c List.mem_cons_self)]
    rfl
  | cons d l ih =>
    obtain ⟨hc, hl⟩ := List.forall_mem_cons.mp hl
    rw [reportLines_cons hc, ih d (List.cons_ne_nil d l) hl, consLine]

/-! ### What report lines are -/

/-- Whether the lines of a stored report are the given ones: each but maybe the last has a break
behind it, the longest that stands there, none holds a break, and a last one without a break is not
empty. -/
inductive HasReportLines : Text → List Text → Prop
  | nil : HasReportLines [] []
  | last {l : Text} (hne : l ≠ []) (hl : ∀ c ∈ l, isReportBreak c = false) : HasReportLines l [l]
  | crlf {l t : Text} {ls : List Text} (hl : ∀ c ∈ l, isReportBreak c = false)
      (h : HasReportLines t ls) : HasReportLines (l ++ '\r' :: '\n' :: t) (l :: ls)
  | line {l t : Text} {c : Char} {ls : List Text} (hl : ∀ c ∈ l, isReportBreak c = false)
      (hc : isReportBreak c) (ht : c = '\r' → t.head? ≠ some '\n') (h : HasReportLines t ls) :
      HasReportLines (l ++ c :: t) (l :: ls)

lemma HasReportLines.reportLines_eq {t : Text} {ls : List Text} (h : HasReportLines t ls) :
    reportLines t = ls := by
  induction h with
  | nil => rfl
  | last hne hl => exact reportLines_last hne hl
  | crlf hl _ ih => rw [reportLines_append hl (reportLines_crlf _), ih, List.append_nil]
  | line hl hc ht _ ih =>
    rw [reportLines_append hl (reportLines_cons_break hc ht), ih, List.append_nil]

/-- A character that ends no line joins the first line, or makes one. -/
lemma HasReportLines.exists_cons {c : Char} (hc : isReportBreak c = false) {t : Text}
    {ls : List Text} (h : HasReportLines t ls) : ∃ ls', HasReportLines (c :: t) ls' := by
  cases h with
  | nil => exact ⟨[[c]], .last (List.cons_ne_nil c []) (by simpa using hc)⟩
  | last hne hl => exact ⟨_, .last (List.cons_ne_nil c t) (List.forall_mem_cons.mpr ⟨hc, hl⟩)⟩
  | crlf hl h => exact ⟨_, .crlf (List.forall_mem_cons.mpr ⟨hc, hl⟩) h⟩
  | line hl hb ht h => exact ⟨_, .line (List.forall_mem_cons.mpr ⟨hc, hl⟩) hb ht h⟩

lemma exists_hasReportLines (t : Text) : ∃ ls, HasReportLines t ls := by
  have hnone : ∀ c ∈ ([] : Text), isReportBreak c = false := by simp
  induction hn : t.length using Nat.strongRecOn generalizing t with
  | ind n ih =>
    cases t with
    | nil => exact ⟨[], .nil⟩
    | cons c t =>
      rw [List.length_cons] at hn
      obtain ⟨ls, h⟩ := ih t.length (by omega) t rfl
      cases hc : isReportBreak c with
      | false => exact h.exists_cons hc
      | true =>
        by_cases hcrlf : c = '\r' ∧ t.head? = some '\n'
        · obtain ⟨rfl, hhead⟩ := hcrlf
          obtain ⟨s, rfl⟩ := List.head?_eq_some_iff.mp hhead
          rw [List.length_cons] at hn
          obtain ⟨ls, h⟩ := ih s.length (by omega) s rfl
          exact ⟨_, .crlf hnone h⟩
        · exact ⟨_, .line hnone hc (fun hr hhead => hcrlf ⟨hr, hhead⟩) h⟩

/-- The lines of a report are the ones that a stored report has. -/
theorem hasReportLines_iff {t : Text} {ls : List Text} :
    HasReportLines t ls ↔ reportLines t = ls := by
  constructor
  · exact HasReportLines.reportLines_eq
  · rintro rfl
    obtain ⟨ls, h⟩ := exists_hasReportLines t
    rwa [h.reportLines_eq]

/-! ### Lines that all end -/

/-- Whether every line of a text ends. -/
def AllLinesEnd (t : Text) : Prop := ∀ c ∈ t.getLast?, isReportBreak c

lemma AllLinesEnd.of_cons {c : Char} {t : Text} (h : AllLinesEnd (c :: t)) : AllLinesEnd t := by
  intro d hd
  apply h
  cases t with
  | nil => cases hd
  | cons b t => rwa [List.getLast?_cons_cons]

/-- The lines of a report are its parts between the characters that end lines. -/
lemma splitOnP_isReportBreak {t : Text} (hr : '\r' ∉ t) (ht : AllLinesEnd t) :
    t.splitOnP isReportBreak = reportLines t ++ [[]] := by
  induction t with
  | nil => rfl
  | cons c t ih =>
    rw [List.mem_cons, not_or] at hr
    have hlines := ih hr.2 ht.of_cons
    by_cases hc : isReportBreak c
    · rw [splitOnP_cons_sep hc, reportLines_cons_break hc fun h => absurd h.symm hr.1, hlines,
        List.cons_append]
    · rw [Bool.not_eq_true] at hc
      have hne : t ≠ [] := by
        rintro rfl
        exact absurd (ht c rfl) (by simp [hc])
      obtain ⟨l, ls, hl⟩ := List.exists_cons_of_ne_nil (mt reportLines_eq_nil.mp hne)
      rw [splitOnP_cons_other hc, reportLines_cons hc, hlines, hl, consLine, List.cons_append,
        List.modifyHead_cons, List.cons_append]

/-- Texts that differ at most in which characters end their report lines. -/
def SameButBreaks (s t : Text) : Prop :=
  List.Forall₂ (fun c d => c = d ∨ isReportBreak c ∧ isReportBreak d) s t

/-- Two texts have the same report lines just when they differ at most in what ends these. -/
theorem reportLines_eq_reportLines_iff {s t : Text} (hs : '\r' ∉ s) (ht : '\r' ∉ t)
    (hs' : AllLinesEnd s) (ht' : AllLinesEnd t) :
    reportLines s = reportLines t ↔ SameButBreaks s t := by
  rw [SameButBreaks, ← splitOnP_eq_splitOnP_iff, splitOnP_isReportBreak hs hs',
    splitOnP_isReportBreak ht ht', List.append_cancel_right_eq]

/-- Where line feeds alone end lines, nothing can differ. -/
lemma SameButBreaks.eq {s t : Text} (h : SameButBreaks s t)
    (hs : ∀ c ∈ s, isReportBreak c → c = '\n') (ht : ∀ c ∈ t, isReportBreak c → c = '\n') :
    s = t := by
  induction h with
  | nil => rfl
  | @cons c d s t hcd _ ih =>
    obtain ⟨hc, hs⟩ := List.forall_mem_cons.mp hs
    obtain ⟨hd, ht⟩ := List.forall_mem_cons.mp ht
    rw [ih hs ht]
    rcases hcd with rfl | ⟨hbc, hbd⟩
    · rfl
    · rw [hc hbc, hd hbd]

end AsmLint
