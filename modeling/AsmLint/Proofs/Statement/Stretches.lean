import AsmLint.Proofs.Statement.Words

/-!
# Stretches of a line

A stretch of a line is a longest run of characters that are no delimiters, at the place where it
stands. The stretches are listed from left to right, none is left out, and their texts are the words
of the line. What holds of them is shown by induction over the delimiters of the line, of which the
first one parts it into a text without any and a shorter line.
-/

namespace AsmLint

/-- A text and the place in a line where it begins. -/
structure Stretch where
  start : Nat
  text : Text
deriving DecidableEq, Repr

namespace Stretch

def stop (s : Stretch) : Nat := s.start + s.text.length

/-- The same text further on. -/
def shift (n : Nat) (s : Stretch) : Stretch := ⟨n + s.start, s.text⟩

@[simp] lemma start_shift (n : Nat) (s : Stretch) : (s.shift n).start = n + s.start := rfl

@[simp] lemma text_shift (n : Nat) (s : Stretch) : (s.shift n).text = s.text := rfl

@[simp] lemma stop_shift (n : Nat) (s : Stretch) : (s.shift n).stop = n + s.stop :=
  Nat.add_assoc ..

/-- Whether a text is a longest run of characters of a line that are no delimiters, and begins
there: on either side of it the line ends, or has a delimiter. -/
def In (s : Stretch) (line : Text) : Prop :=
  ∃ front behind, line = front ++ s.text ++ behind ∧ front.length = s.start ∧ s.text ≠ [] ∧
    (∀ c ∈ s.text, isDelimiter c = false) ∧ (∀ c ∈ front.getLast?, isDelimiter c) ∧
    ∀ c ∈ behind.head?, isDelimiter c

end Stretch

/-- The stretches of a line, from left to right. -/
def stretches (line : Text) : List Stretch :=
  (line.splitOnP isDelimiter).foldr
    (fun piece later =>
      (if piece = [] then [] else [⟨0, piece⟩]) ++ later.map (Stretch.shift (piece.length + 1))) []

/-! ### Cuts at delimiters -/

/-- Induction over the delimiters of a line. -/
theorem delimiters_induction {motive : Text → Prop}
    (plain : ∀ u, (∀ c ∈ u, isDelimiter c = false) → motive u)
    (cut : ∀ u c v, (∀ d ∈ u, isDelimiter d = false) → isDelimiter c → motive u → motive v →
      motive (u ++ c :: v))
    (line : Text) : motive line := by
  induction hn : line.length using Nat.strongRecOn generalizing line with
  | ind n ih =>
    have hu : ∀ d ∈ line.takeWhile (!isDelimiter ·), isDelimiter d = false :=
      fun d hd => by simpa using List.mem_takeWhile_imp hd
    have hline := List.takeWhile_append_dropWhile (p := (!isDelimiter ·)) (l := line)
    cases hrest : line.dropWhile (!isDelimiter ·) with
    | nil =>
      rw [hrest, List.append_nil] at hline
      exact plain line (hline ▸ hu)
    | cons c v =>
      have hc := List.head?_dropWhile_not (!isDelimiter ·) line
      rw [hrest] at hline hc
      have hlength := congrArg List.length hline
      rw [List.length_append, List.length_cons] at hlength
      rw [← hline]
      exact cut _ c v hu (by simpa using hc) (plain _ hu) (ih v.length (by omega) v rfl)

variable {u v : Text} {c : Char}

lemma words_plain (hu : ∀ c ∈ u, isDelimiter c = false) :
    words u = if u = [] then [] else [u] := by
  split_ifs with h
  · rw [h, words_nil]
  · exact words_eq_singleton hu h

lemma stretches_plain (hu : ∀ c ∈ u, isDelimiter c = false) :
    stretches u = if u = [] then [] else [⟨0, u⟩] := by
  rw [stretches, List.splitOnP_eq_singleton hu, List.foldr_cons]
  exact List.append_nil _

lemma stretches_append_cons (hu : ∀ c ∈ u, isDelimiter c = false) (hc : isDelimiter c) (v : Text) :
    stretches (u ++ c :: v) = stretches u ++ (stretches v).map (Stretch.shift (u.length + 1)) := by
  rw [stretches_plain hu, stretches, List.splitOnP_append_cons u v hc,
    List.splitOnP_eq_singleton hu]
  rfl

/-- The words are the texts of the stretches. -/
theorem map_text_stretches (line : Text) : (stretches line).map Stretch.text = words line := by
  induction line using delimiters_induction with
  | plain u hu =>
    rw [stretches_plain hu, words_plain hu]
    split_ifs <;> rfl
  | cut u c v hu hc ihu ihv =>
    rw [stretches_append_cons hu hc, words_append_cons hc, ← ihu, ← ihv, List.map_append,
      List.map_map]
    rfl

lemma length_stretches (line : Text) : (stretches line).length = (words line).length := by
  rw [← map_text_stretches, List.length_map]

/-! ### What stands in a line -/

namespace Stretch

variable {s : Stretch}

lemma in_plain (hu : ∀ c ∈ u, isDelimiter c = false) : s.In u ↔ u ≠ [] ∧ s = ⟨0, u⟩ := by
  constructor
  · rintro ⟨front, behind, rfl, hstart, hne, -, hfront, hbehind⟩
    have hnofront : front = [] := by
      refine List.getLast?_eq_none_iff.mp (Option.eq_none_iff_forall_ne_some.mpr fun d hd => ?_)
      have hmem : d ∈ front ++ s.text ++ behind := by simp [List.mem_of_getLast? hd]
      exact absurd (hfront d hd) (by simp [hu d hmem])
    have hnobehind : behind = [] := by
      refine List.head?_eq_none_iff.mp (Option.eq_none_iff_forall_ne_some.mpr fun d hd => ?_)
      have hmem : d ∈ front ++ s.text ++ behind := by simp [List.mem_of_head? hd]
      exact absurd (hbehind d hd) (by simp [hu d hmem])
    subst hnofront hnobehind
    obtain ⟨start, text⟩ := s
    obtain rfl : 0 = start := hstart
    simpa using hne
  · rintro ⟨hne, rfl⟩
    exact ⟨[], [], by simp, rfl, hne, hu, by simp, by simp⟩

/-- What stands in front of a delimiter stands in the whole line. -/
lemma In.append_cons (h : s.In u) (hc : isDelimiter c) (v : Text) : s.In (u ++ c :: v) := by
  obtain ⟨front, behind, rfl, hstart, hne, htext, hfront, hbehind⟩ := h
  refine ⟨front, behind ++ c :: v, by simp, hstart, hne, htext, hfront, fun d hd => ?_⟩
  cases behind with
  | nil => simpa [← Option.mem_some_iff.mp hd] using hc
  | cons b behind => exact hbehind d hd

/-- What stands behind a delimiter stands in the whole line. -/
lemma In.cons_append (h : s.In v) (hc : isDelimiter c) (u : Text) :
    (s.shift (u.length + 1)).In (u ++ c :: v) := by
  obtain ⟨front, behind, rfl, hstart, hne, htext, hfront, hbehind⟩ := h
  refine ⟨u ++ c :: front, behind, by simp, by simp [← hstart]; omega, hne, htext, fun d hd => ?_,
    hbehind⟩
  have hd : front.getLast?.getD c = d := by
    simpa [List.getLast?_append, List.getLast?_cons] using hd
  cases hlast : front.getLast? with
  | none =>
    obtain rfl : c = d := by simpa [hlast] using hd
    exact hc
  | some b =>
    obtain rfl : b = d := by simpa [hlast] using hd
    exact hfront b hlast

lemma In.ne_nil {line : Text} (h : s.In line) : s.text ≠ [] := by
  obtain ⟨-, -, -, -, hne, -⟩ := h
  exact hne

lemma In.stop_le {line : Text} (h : s.In line) : s.stop ≤ line.length := by
  obtain ⟨front, behind, rfl, hstart, -⟩ := h
  rw [List.length_append, List.length_append, hstart]
  exact Nat.le_add_right ..

/-- A character that a text has not stands behind the text, or in front of it. -/
lemma beside_of_notMem {front text behind : Text} (h : u ++ c :: v = front ++ text ++ behind)
    (hnot : c ∉ text) :
    (∃ after, u = front ++ text ++ after ∧ behind = after ++ c :: v) ∨
      ∃ before, front = u ++ c :: before ∧ v = before ++ text ++ behind := by
  rcases List.append_eq_append_iff.mp h with ⟨after, hu, hrest⟩ | ⟨after, hu, hbehind⟩
  · cases after with
    | nil => exact .inl ⟨[], by simpa using hu.symm, by simpa using hrest.symm⟩
    | cons d after =>
      obtain ⟨rfl, rfl⟩ := List.cons.inj hrest
      rcases List.append_eq_append_iff.mp hu with ⟨_, -, h⟩ | ⟨before, hfront, h⟩
      · exact absurd (h ▸ by simp) hnot
      cases before with
      | nil =>
        rw [List.nil_append] at h
        exact absurd (h ▸ List.mem_cons_self) hnot
      | cons d before =>
        obtain ⟨rfl, rfl⟩ := List.cons.inj h
        exact .inr ⟨before, hfront, rfl⟩
  · exact .inl ⟨after, hu, hbehind⟩

/-- A delimiter parts a line into two whose stretches are found apart. -/
lemma in_append_cons (hc : isDelimiter c) :
    s.In (u ++ c :: v) ↔ s.In u ∨ ∃ r : Stretch, r.In v ∧ s = r.shift (u.length + 1) := by
  constructor
  · rintro ⟨front, behind, heq, hstart, hne, htext, hfront, hbehind⟩
    have hnot : c ∉ s.text := fun hmem => absurd hc (by simp [htext c hmem])
    rcases beside_of_notMem heq hnot with ⟨after, rfl, rfl⟩ | ⟨before, rfl, rfl⟩
    · refine .inl ⟨front, after, rfl, hstart, hne, htext, hfront, fun d hd => hbehind d ?_⟩
      rw [Option.mem_def, List.head?_append, hd]
      rfl
    · refine .inr ⟨⟨before.length, s.text⟩, ⟨before, behind, rfl, rfl, hne, htext, ?_, hbehind⟩, ?_⟩
      · intro d hd
        exact hfront d (by simp [List.getLast?_append, List.getLast?_cons, Option.mem_def.mp hd])
      · obtain ⟨start, text⟩ := s
        simp only [List.length_append, List.length_cons] at hstart
        simp only [shift, mk.injEq, and_true]
        omega
  · rintro (h | ⟨r, h, rfl⟩)
    · exact h.append_cons hc v
    · exact h.cons_append hc u

end Stretch

/-! ### The list of stretches -/

/-- Just the stretches of a line are listed. -/
theorem mem_stretches {line : Text} {s : Stretch} : s ∈ stretches line ↔ s.In line := by
  induction line using delimiters_induction generalizing s with
  | plain u hu =>
    rw [stretches_plain hu, Stretch.in_plain hu]
    split_ifs with h <;> simp [h]
  | cut u c v hu hc ihu ihv =>
    rw [stretches_append_cons hu hc, Stretch.in_append_cons hc, List.mem_append, ihu, List.mem_map]
    simp only [ihv, eq_comm]

/-- Each stretch ends in front of those that follow it. -/
theorem pairwise_stretches (line : Text) : (stretches line).Pairwise (·.stop < ·.start) := by
  induction line using delimiters_induction with
  | plain u hu =>
    rw [stretches_plain hu]
    split_ifs <;> simp
  | cut u c v hu hc ihu ihv =>
    rw [stretches_append_cons hu hc, List.pairwise_append, List.pairwise_map]
    refine ⟨ihu, ihv.imp fun h => by simpa using h, fun s hs r hr => ?_⟩
    obtain ⟨r, -, rfl⟩ := List.mem_map.mp hr
    have hstop := (mem_stretches.mp hs).stop_le
    rw [Stretch.start_shift]
    omega

/-- Every character of a line that is no delimiter stands in a stretch. -/
theorem exists_stretch {t : Text} {i : Nat} {c : Char} (hi : t[i]? = some c)
    (hc : isDelimiter c = false) : ∃ s : Stretch, s.In t ∧ s.start ≤ i ∧ i < s.stop := by
  induction t using delimiters_induction generalizing i with
  | plain u hu =>
    obtain ⟨hlt, -⟩ := List.getElem?_eq_some_iff.mp hi
    have hne : u ≠ [] := List.ne_nil_of_length_pos (by omega)
    exact ⟨⟨0, u⟩, (Stretch.in_plain hu).mpr ⟨hne, rfl⟩, Nat.zero_le i, by simpa [Stretch.stop]⟩
  | cut u d v hu hd ihu ihv =>
    rcases Nat.lt_trichotomy i u.length with hlt | rfl | hgt
    · rw [List.getElem?_append_left hlt] at hi
      obtain ⟨s, hs, hbounds⟩ := ihu hi
      exact ⟨s, hs.append_cons hd v, hbounds⟩
    · obtain rfl : d = c := by simpa using hi
      rw [hd] at hc
      cases hc
    · obtain ⟨j, rfl⟩ : ∃ j, i = u.length + 1 + j := ⟨i - (u.length + 1), by omega⟩
      rw [List.getElem?_append_right (by omega), Nat.add_assoc, Nat.add_sub_cancel_left,
        Nat.add_comm 1 j, List.getElem?_cons_succ] at hi
      obtain ⟨s, hs, hstart, hstop⟩ := ihv hi
      refine ⟨s.shift (u.length + 1), hs.cons_append hd u, ?_, ?_⟩
      · rw [Stretch.start_shift]
        omega
      · rw [Stretch.stop_shift]
        omega

end AsmLint
