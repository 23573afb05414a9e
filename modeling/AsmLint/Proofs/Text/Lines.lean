import AsmLint.Text.LineBreak
import Mathlib.Data.List.DropRight
import Mathlib.Tactic.Tauto

/-!
# Lines of a text and of its bytes

A carriage return and a line feed end lines in texts and in bytes alike, so both are cut by one
function, `cutLines`, which takes the longest terminator first. Every list is an unbroken list, or
an unbroken list, a terminator and a rest (`lines_induction`), and each way of cutting lines has one
equation for either form.
-/

namespace AsmLint

/-- An alphabet in which lines are written. -/
class LineAlphabet (α : Type) where
  carriageReturn : α
  lineFeed : α
  distinct : carriageReturn ≠ lineFeed

open LineAlphabet

instance : LineAlphabet Char := ⟨'\r', '\n', by decide⟩

instance : LineAlphabet UInt8 := ⟨13, 10, by decide⟩

section

variable {α : Type} [LineAlphabet α]

/-! ### Separators -/

omit [LineAlphabet α] in
/-- Induction over the cuts of a list at separators. -/
theorem cut_induction {p : α → Bool} {motive : List α → Prop}
    (whole : ∀ u, (∀ a ∈ u, p a = false) → motive u)
    (cut : ∀ u a v, p a → motive u → motive v → motive (u ++ a :: v))
    (t : List α) : motive t := by
  induction hn : t.length using Nat.strongRecOn generalizing t with
  | ind n ih =>
    by_cases h : ∃ a ∈ t, p a
    · obtain ⟨a, ha, hpa⟩ := h
      obtain ⟨u, v, rfl⟩ := List.append_of_mem ha
      simp only [List.length_append, List.length_cons] at hn
      exact cut u a v hpa (ih u.length (by omega) u rfl) (ih v.length (by omega) v rfl)
    · exact whole t fun a ha => by simpa using fun hpa => h ⟨a, ha, hpa⟩

omit [LineAlphabet α] in
/-- No part of a split holds a separator, or what the list does not hold. -/
lemma eq_false_of_mem_splitOnP {p : α → Bool} {t w : List α} (hw : w ∈ t.splitOnP p) {a : α}
    (ha : a ∈ w) : p a = false ∧ a ∈ t := by
  induction t using cut_induction (p := p) with
  | whole u hu =>
    rw [List.splitOnP_eq_singleton hu] at hw
    rw [List.mem_singleton.mp hw] at ha
    exact ⟨hu a ha, ha⟩
  | cut u b v hb ihu ihv =>
    rw [List.splitOnP_append_cons u v hb, List.mem_append] at hw
    rcases hw with hw | hw
    · exact ⟨(ihu hw).1, List.mem_append_left _ (ihu hw).2⟩
    · exact ⟨(ihv hw).1, List.mem_append_right _ (List.mem_cons_of_mem _ (ihv hw).2)⟩

/-! ### Unbroken lists and terminators -/

/-- A list in which no line ends. -/
def Unbroken (t : List α) : Prop := carriageReturn ∉ t ∧ lineFeed ∉ t

/-- The list `e` is what ends a line in front of `t`: a carriage return does so alone only if no
line feed follows. -/
inductive Ends : List α → List α → Prop
  | lf (t : List α) : Ends [lineFeed] t
  | crlf (t : List α) : Ends [carriageReturn, lineFeed] t
  | cr {t : List α} (h : t.head? ≠ some lineFeed) : Ends [carriageReturn] t

instance [DecidableEq α] (t : List α) : Decidable (Unbroken t) :=
  inferInstanceAs (Decidable (_ ∧ _))

@[simp] lemma unbroken_nil : Unbroken ([] : List α) := by simp [Unbroken]

lemma unbroken_cons {a : α} {t : List α} :
    Unbroken (a :: t) ↔ (a ≠ carriageReturn ∧ a ≠ lineFeed) ∧ Unbroken t := by
  simp only [Unbroken, List.mem_cons, not_or, ne_comm (a := a)]
  tauto

lemma Unbroken.subset {s t : List α} (ht : Unbroken t) (h : s ⊆ t) : Unbroken s :=
  ⟨fun hc => ht.1 (h hc), fun hl => ht.2 (h hl)⟩

/-- A list is unbroken, or its first line ends somewhere. -/
lemma unbroken_or_ends (t : List α) :
    Unbroken t ∨ ∃ u e s, Unbroken u ∧ Ends e s ∧ t = u ++ e ++ s := by
  classical
  induction t with
  | nil => exact .inl unbroken_nil
  | cons a t ih =>
    by_cases hl : a = lineFeed
    · exact .inr ⟨[], [a], t, unbroken_nil, hl ▸ .lf t, rfl⟩
    by_cases hc : a = carriageReturn
    · subst hc
      by_cases ht : t.head? = some lineFeed
      · obtain ⟨s, rfl⟩ := List.head?_eq_some_iff.mp ht
        exact .inr ⟨[], _, s, unbroken_nil, .crlf s, rfl⟩
      · exact .inr ⟨[], _, t, unbroken_nil, .cr ht, rfl⟩
    rcases ih with ht | ⟨u, e, s, hu, he, rfl⟩
    · exact .inl (unbroken_cons.mpr ⟨⟨hc, hl⟩, ht⟩)
    · exact .inr ⟨a :: u, e, s, unbroken_cons.mpr ⟨⟨hc, hl⟩, hu⟩, he, rfl⟩

/-- Induction over the lines of a list. -/
theorem lines_induction {motive : List α → Prop}
    (last : ∀ u, Unbroken u → motive u)
    (line : ∀ u e t, Unbroken u → Ends e t → motive t → motive (u ++ e ++ t))
    (t : List α) : motive t := by
  induction hn : t.length using Nat.strongRecOn generalizing t with
  | ind n ih =>
    rcases unbroken_or_ends t with ht | ⟨u, e, s, hu, he, rfl⟩
    · exact last t ht
    · refine line u e s hu he (ih s.length ?_ s rfl)
      have : 0 < e.length := by cases he <;> simp
      simp only [List.length_append] at hn
      omega

variable [DecidableEq α]

/-! ### Lines with their terminators -/

/-- One more symbol in front of a first line. -/
def consEnded (a : α) : List (List α × List α) → List (List α × List α)
  | [] => [([a], [])]
  | (l, e) :: ls => (a :: l, e) :: ls

/-- The lines of a list and the terminator of each, which is empty for a last line without one. -/
def endedLines : List α → List (List α × List α)
  | [] => []
  | [a] => if a = carriageReturn ∨ a = lineFeed then [([], [a])] else [([a], [])]
  | a :: b :: t =>
    if a = carriageReturn ∧ b = lineFeed then ([], [a, b]) :: endedLines t
    else if a = carriageReturn ∨ a = lineFeed then ([], [a]) :: endedLines (b :: t)
    else consEnded a (endedLines (b :: t))

lemma endedLines_cons {a : α} (h : a ≠ carriageReturn ∧ a ≠ lineFeed) (t : List α) :
    endedLines (a :: t) = consEnded a (endedLines t) := by
  cases t <;> simp [endedLines, consEnded, h]

lemma endedLines_ends {e t : List α} (he : Ends e t) :
    endedLines (e ++ t) = ([], e) :: endedLines t := by
  have hd : (lineFeed : α) ≠ carriageReturn := distinct.symm
  cases he with
  | lf => cases t <;> simp [endedLines, hd]
  | crlf => simp [endedLines]
  | cr h => cases t <;> simp_all [endedLines]

lemma endedLines_append {u e t : List α} (hu : Unbroken u) (he : Ends e t) :
    endedLines (u ++ e ++ t) = (u, e) :: endedLines t := by
  induction u with
  | nil => exact endedLines_ends he
  | cons a u ih =>
    obtain ⟨ha, hu⟩ := unbroken_cons.mp hu
    rw [List.cons_append, List.cons_append, endedLines_cons ha, ih hu, consEnded]

lemma endedLines_unbroken {u : List α} (hu : Unbroken u) :
    endedLines u = if u = [] then [] else [(u, [])] := by
  induction u with
  | nil => rfl
  | cons a u ih =>
    obtain ⟨ha, hu⟩ := unbroken_cons.mp hu
    rw [endedLines_cons ha, ih hu]
    split_ifs <;> simp_all [consEnded]

/-! ### Cutting -/

/-- One more symbol in front of a first line. -/
def consLine (a : α) : List (List α) → List (List α)
  | [] => [[a]]
  | l :: ls => (a :: l) :: ls

/-- The lines of a list without their terminators, the longest terminator first; nothing behind the
last terminator is no line. -/
def cutLines : List α → List (List α)
  | [] => []
  | [a] => if a = carriageReturn ∨ a = lineFeed then [[]] else [[a]]
  | a :: b :: t =>
    if a = carriageReturn ∧ b = lineFeed then [] :: cutLines t
    else if a = carriageReturn ∨ a = lineFeed then [] :: cutLines (b :: t)
    else consLine a (cutLines (b :: t))

/-- The number of terminators in a list, a carriage return and the line feed behind it being one. -/
def terminatorCount : List α → Nat
  | [] => 0
  | [a] => if a = carriageReturn ∨ a = lineFeed then 1 else 0
  | a :: b :: t =>
    if a = carriageReturn ∧ b = lineFeed then terminatorCount t + 1
    else if a = carriageReturn ∨ a = lineFeed then terminatorCount (b :: t) + 1
    else terminatorCount (b :: t)

/-- What stands behind the last terminator. -/
def lastLine (t : List α) : List α := t.rtakeWhile fun a => a ≠ carriageReturn ∧ a ≠ lineFeed

omit [LineAlphabet α] [DecidableEq α] in
lemma map_fst_consEnded (a : α) (ls : List (List α × List α)) :
    (consEnded a ls).map Prod.fst = consLine a (ls.map Prod.fst) := by
  cases ls <;> rfl

omit [LineAlphabet α] [DecidableEq α] in
lemma countP_consEnded (a : α) (ls : List (List α × List α)) :
    (consEnded a ls).countP (·.2.isEmpty = false) = ls.countP (·.2.isEmpty = false) := by
  cases ls <;> simp [consEnded, List.countP_cons]

lemma cutLines_eq_map (t : List α) : cutLines t = (endedLines t).map Prod.fst := by
  fun_induction cutLines t with
  | case1 => rfl
  | case2 a h => rw [endedLines, if_pos h]; rfl
  | case3 a h => rw [endedLines, if_neg h]; rfl
  | case4 a b t h ih => rw [endedLines, if_pos h, ih]; rfl
  | case5 a b t h h' ih => rw [endedLines, if_neg h, if_pos h', ih]; rfl
  | case6 a b t h h' ih => rw [endedLines, if_neg h, if_neg h', map_fst_consEnded, ih]

lemma terminatorCount_eq_countP (t : List α) :
    terminatorCount t = (endedLines t).countP (·.2.isEmpty = false) := by
  fun_induction terminatorCount t with
  | case1 => rfl
  | case2 a h => rw [endedLines, if_pos h]; rfl
  | case3 a h => rw [endedLines, if_neg h]; rfl
  | case4 a b t h ih => rw [endedLines, if_pos h, ih, List.countP_cons_of_pos rfl]
  | case5 a b t h h' ih => rw [endedLines, if_neg h, if_pos h', ih, List.countP_cons_of_pos rfl]
  | case6 a b t h h' ih => rw [endedLines, if_neg h, if_neg h', countP_consEnded, ih]

/-- A first line that ends is cut off whole. -/
lemma cutLines_append {u e t : List α} (hu : Unbroken u) (he : Ends e t) :
    cutLines (u ++ e ++ t) = u :: cutLines t := by
  rw [cutLines_eq_map, endedLines_append hu he, List.map_cons, ← cutLines_eq_map]

lemma terminatorCount_append {u e t : List α} (hu : Unbroken u) (he : Ends e t) :
    terminatorCount (u ++ e ++ t) = terminatorCount t + 1 := by
  have hne : e.isEmpty = false := by cases he <;> rfl
  rw [terminatorCount_eq_countP, endedLines_append hu he, List.countP_cons_of_pos (by simp [hne]),
    ← terminatorCount_eq_countP]

/-- An unbroken list is one line, unless it is empty. -/
lemma cutLines_unbroken {u : List α} (hu : Unbroken u) :
    cutLines u = if u = [] then [] else [u] := by
  rw [cutLines_eq_map, endedLines_unbroken hu]
  split_ifs <;> rfl

lemma terminatorCount_unbroken {u : List α} (hu : Unbroken u) : terminatorCount u = 0 := by
  rw [terminatorCount_eq_countP, endedLines_unbroken hu]
  split_ifs <;> rfl

lemma lastLine_unbroken {u : List α} (hu : Unbroken u) : lastLine u = u := by
  rw [lastLine, List.rtakeWhile_eq_self_iff]
  intro a ha
  simp only [decide_eq_true_eq]
  exact ⟨fun hc => hu.1 (hc ▸ ha), fun hl => hu.2 (hl ▸ ha)⟩

/-- Nothing in front of a symbol that ends a line stands behind the last terminator. -/
lemma lastLine_append_cons (s t : List α) {a : α} (ha : a = carriageReturn ∨ a = lineFeed) :
    lastLine (s ++ a :: t) = lastLine t := by
  have hstop : ¬(decide (a ≠ carriageReturn ∧ a ≠ lineFeed) = true) := by
    simp only [decide_eq_true_eq]
    tauto
  simp only [lastLine]
  induction t using List.reverseRecOn with
  | nil => rw [List.rtakeWhile_concat, if_neg hstop, List.rtakeWhile_nil]
  | append_singleton t b ih =>
    rw [← List.cons_append, ← List.append_assoc, List.rtakeWhile_concat, List.rtakeWhile_concat, ih]

lemma lastLine_append {e t : List α} (u : List α) (he : Ends e t) :
    lastLine (u ++ e ++ t) = lastLine t := by
  cases he with
  | lf =>
    rw [List.append_assoc]
    exact lastLine_append_cons u t (.inr rfl)
  | crlf =>
    rw [List.append_cons, List.append_assoc]
    exact lastLine_append_cons _ t (.inr rfl)
  | cr =>
    rw [List.append_assoc]
    exact lastLine_append_cons u t (.inl rfl)

/-- The lines of a list are unbroken. -/
theorem unbroken_of_mem_cutLines {t l : List α} (h : l ∈ cutLines t) : Unbroken l := by
  induction t using lines_induction with
  | last u hu =>
    rw [cutLines_unbroken hu] at h
    split_ifs at h
    · simp at h
    · rw [List.mem_singleton.mp h]
      exact hu
  | line u e t hu he ih =>
    rw [cutLines_append hu he] at h
    rcases List.mem_cons.mp h with rfl | h
    · exact hu
    · exact ih h

/-- There is one line for each terminator, and one more if something stands behind the last. -/
theorem length_cutLines (t : List α) :
    (cutLines t).length = terminatorCount t + if lastLine t = [] then 0 else 1 := by
  induction t using lines_induction with
  | last u hu =>
    rw [cutLines_unbroken hu, terminatorCount_unbroken hu, lastLine_unbroken hu]
    split_ifs <;> rfl
  | line u e t hu he ih =>
    rw [cutLines_append hu he, terminatorCount_append hu he, lastLine_append u he,
      List.length_cons, ih]
    omega

end

/-! ### Raw lines -/

/-- A text starts with its first piece. -/
lemma head?_of_pieces {breaks : Char → Bool} {t p : Text} {ps : List Text}
    (h : pieces breaks t = p :: ps) : t.head? = p.head? := by
  have hne : p ≠ [] := ne_nil_of_mem_pieces breaks (h ▸ List.mem_cons_self)
  rw [← flatten_pieces breaks t, h, List.flatten_cons, List.head?_append_of_ne_nil _ hne]

lemma isTerminator_eq_false {c : Char} :
    isTerminator c = false ↔ c ≠ carriageReturn ∧ c ≠ lineFeed := by
  simp [isTerminator, carriageReturn, lineFeed, and_comm]

lemma rawLines_cons {c : Char} (h : isTerminator c = false) (t : Text) :
    rawLines (c :: t) = consLine c (rawLines t) := by
  rw [rawLines, pieces_cons]
  change consPiece isTerminator c (rawLines t) = _
  cases rawLines t <;> simp [consPiece, consLine, h]

lemma rawLines_ends {e t : Text} (he : Ends e t) : rawLines (e ++ t) = e :: rawLines t := by
  cases he with
  | lf =>
    change consPiece isTerminator '\n' (rawLines t) = ['\n'] :: rawLines t
    cases rawLines t <;> simp [consPiece, isTerminator]
  | crlf =>
    change consPiece isTerminator '\r' (consPiece isTerminator '\n' (rawLines t)) = _
    cases rawLines t <;> simp [consPiece, isTerminator, carriageReturn, lineFeed]
  | cr h =>
    change consPiece isTerminator '\r' (rawLines t) = ['\r'] :: rawLines t
    cases hp : rawLines t with
    | nil => simp [consPiece]
    | cons p ps =>
      -- the first raw line is no bare line feed, as `t` does not start with one
      have hne : p ≠ ['\n'] := by
        rintro rfl
        exact h (head?_of_pieces hp)
      simp [consPiece, isTerminator, hne]

lemma rawLines_append {u e t : Text} (hu : Unbroken u) (he : Ends e t) :
    rawLines (u ++ e ++ t) = (u ++ e) :: rawLines t := by
  induction u with
  | nil => exact rawLines_ends he
  | cons c u ih =>
    obtain ⟨hc, hu⟩ := unbroken_cons.mp hu
    rw [List.cons_append, List.cons_append, rawLines_cons (isTerminator_eq_false.mpr hc), ih hu,
      consLine]

lemma rawLines_unbroken {u : Text} (hu : Unbroken u) :
    rawLines u = if u = [] then [] else [u] := by
  induction u with
  | nil => rfl
  | cons c u ih =>
    obtain ⟨hc, hu⟩ := unbroken_cons.mp hu
    rw [rawLines_cons (isTerminator_eq_false.mpr hc), ih hu]
    split_ifs <;> simp_all [consLine]

lemma dropTerminator_unbroken {u : Text} (hu : Unbroken u) : dropTerminator u = u := by
  apply dropBreak_eq_self
  intro c hc
  rw [isTerminator_eq_false]
  exact ⟨fun h => hu.1 (h ▸ hc), fun h => hu.2 (h ▸ hc)⟩

lemma dropTerminator_append {u e t : Text} (hu : Unbroken u) (he : Ends e t) :
    dropTerminator (u ++ e) = u := by
  rw [dropTerminator]
  induction u with
  | nil => cases he <;> simp [dropBreak, isTerminator, carriageReturn, lineFeed]
  | cons c u ih =>
    obtain ⟨hc, hu⟩ := unbroken_cons.mp hu
    simp [dropBreak, isTerminator_eq_false.mpr hc, ih hu]

/-- The raw lines of a text without their terminators are its lines. -/
theorem map_dropTerminator_rawLines (t : Text) : (rawLines t).map dropTerminator = cutLines t := by
  induction t using lines_induction with
  | last u hu =>
    rw [rawLines_unbroken hu, cutLines_unbroken hu]
    split_ifs
    · rfl
    · rw [List.map_singleton, dropTerminator_unbroken hu]
  | line u e t hu he ih =>
    rw [rawLines_append hu he, cutLines_append hu he, List.map_cons, dropTerminator_append hu he,
      ih]

/-- Only line feeds and carriage returns end lines. -/
theorem getLast?_of_mem_dropLast_rawLines {t raw : Text} (h : raw ∈ (rawLines t).dropLast) :
    raw.getLast? = some '\n' ∨ raw.getLast? = some '\r' := by
  induction t using lines_induction with
  | last u hu =>
    rw [rawLines_unbroken hu] at h
    split_ifs at h <;> simp at h
  | line u e t hu he ih =>
    rw [rawLines_append hu he] at h
    cases hlines : rawLines t with
    | nil => simp [hlines] at h
    | cons p ps =>
      rw [hlines, List.dropLast_cons_cons, ← hlines] at h
      rcases List.mem_cons.mp h with rfl | h
      · cases he with
        | lf => exact .inl (List.getLast?_concat ..)
        | crlf => exact .inl (by simp [lineFeed])
        | cr => exact .inr (List.getLast?_concat ..)
      · exact ih h

/-! ### Written lines -/

/-- What is written line by line is read back at its line feeds, if none stands in a line. -/
theorem splitOn_unlines {ls : List Text} (h : ∀ l ∈ ls, '\n' ∉ l) :
    (unlines ls).splitOn '\n' = ls ++ [[]] := by
  induction ls with
  | nil => rfl
  | cons l ls ih =>
    rw [unlines_cons, List.splitOn_append_cons_self_of_not_mem (h l List.mem_cons_self),
      ih fun m hm => h m (List.mem_cons_of_mem _ hm), List.cons_append]

end AsmLint
