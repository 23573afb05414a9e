import AsmLint.Proofs.Statement.Stretches
import AsmLint.Source

/-!
# Words of a line that is cut

A line that is cut to its first characters keeps its first stretches where they stand. Only the last
of them may have lost characters, and then it is a start of the stretch that stood there. A longer
cut keeps no fewer stretches. A statement on a line that is cut has the first words of the statement
on the whole line, the last of them possibly shortened, and is truncated only where that is.
-/

namespace AsmLint

/-! ### Stretches that are kept -/

/-- Whether stretches are what is left of others: the first of them, the last of which may have lost
characters at its end. -/
inductive CutFrom : List Stretch → List Stretch → Prop
  | nil (ss : List Stretch) : CutFrom [] ss
  | last (start : Nat) {kept text : Text} (hne : kept ≠ []) (h : kept <+: text)
      (ss : List Stretch) : CutFrom [⟨start, kept⟩] (⟨start, text⟩ :: ss)
  | cons (s : Stretch) {rs ss : List Stretch} (h : CutFrom rs ss) : CutFrom (s :: rs) (s :: ss)

namespace CutFrom

variable {rs ss : List Stretch}

lemma append_right (h : CutFrom rs ss) (ts : List Stretch) : CutFrom rs (ss ++ ts) := by
  induction h with
  | nil ss => exact .nil _
  | last start hne h ss => exact .last start hne h _
  | cons s _ ih => exact .cons s ih

lemma append_left (h : CutFrom rs ss) (ts : List Stretch) : CutFrom (ts ++ rs) (ts ++ ss) := by
  induction ts with
  | nil => exact h
  | cons t ts ih => exact .cons t ih

lemma map_shift (h : CutFrom rs ss) (n : Nat) :
    CutFrom (rs.map (Stretch.shift n)) (ss.map (Stretch.shift n)) := by
  induction h with
  | nil ss => exact .nil _
  | last start hne h ss => exact .last (n + start) hne h _
  | cons s _ ih => exact .cons (s.shift n) ih

lemma take (h : CutFrom rs ss) (k : Nat) : CutFrom (rs.take k) (ss.take k) := by
  induction h generalizing k with
  | nil ss =>
    rw [List.take_nil]
    exact .nil _
  | last start hne h ss =>
    cases k with
    | zero => exact .nil _
    | succ k =>
      rw [List.take_succ_cons, List.take_nil, List.take_succ_cons]
      exact .last start hne h _
  | cons s _ ih =>
    cases k with
    | zero => exact .nil _
    | succ k => exact .cons s (ih k)

lemma length_le (h : CutFrom rs ss) : rs.length ≤ ss.length := by
  induction h with
  | nil ss => exact Nat.zero_le _
  | last start hne h ss => exact Nat.succ_le_succ (Nat.zero_le _)
  | cons s _ ih => exact Nat.succ_le_succ ih

/-- The stretches that are left stand where they stood. -/
lemma map_start (h : CutFrom rs ss) :
    rs.map Stretch.start <+: ss.map Stretch.start := by
  induction h with
  | nil ss => exact List.nil_prefix
  | last start hne h ss => exact List.cons_prefix_cons.mpr ⟨rfl, List.nil_prefix⟩
  | cons s _ ih => exact List.cons_prefix_cons.mpr ⟨rfl, ih⟩

end CutFrom

/-- The stretches of a line that is cut are left of those of the whole line. -/
theorem cutFrom_stretches_take (line : Text) (n : Nat) :
    CutFrom (stretches (line.take n)) (stretches line) := by
  induction line using delimiters_induction generalizing n with
  | plain u hu =>
    rw [stretches_plain hu, stretches_plain fun c hc => hu c (List.mem_of_mem_take hc)]
    by_cases htake : u.take n = []
    · rw [if_pos htake]
      exact .nil _
    · have hne : u ≠ [] := fun h => htake (by rw [h, List.take_nil])
      rw [if_neg htake, if_neg hne]
      exact .last 0 htake (List.take_prefix n u) []
  | cut u c v hu hc ihu ihv =>
    rw [stretches_append_cons hu hc]
    by_cases hn : n ≤ u.length
    · rw [List.take_append_of_le_length hn]
      exact (ihu n).append_right _
    · obtain ⟨m, rfl⟩ : ∃ m, n = u.length + (m + 1) := ⟨n - u.length - 1, by omega⟩
      rw [List.take_length_add_append, List.take_succ_cons, stretches_append_cons hu hc]
      exact ((ihv m).map_shift _).append_left _

/-! ### Words that are kept -/

/-- Whether words are what is left of others: the same ones at the same places, but for the last, of
which a start is left. -/
structure CutShort (kept whole : List Text) : Prop where
  length_le : kept.length ≤ whole.length
  same : ∀ i, i + 1 < kept.length → kept[i]? = whole[i]?
  last : ∀ w, kept.getLast? = some w →
    w ≠ [] ∧ ∃ w', whole[kept.length - 1]? = some w' ∧ w <+: w'

lemma CutShort.cons {w : Text} (hw : w ≠ []) {kept whole : List Text} (h : CutShort kept whole) :
    CutShort (w :: kept) (w :: whole) where
  length_le := Nat.succ_le_succ h.length_le
  same i hi := by
    cases i with
    | zero => rfl
    | succ i => exact h.same i (Nat.lt_of_succ_lt_succ hi)
  last w' hw' := by
    cases kept with
    | nil =>
      obtain rfl : w = w' := by simpa using hw'
      exact ⟨hw, w, rfl, List.prefix_refl w⟩
    | cons u kept =>
      rw [List.getLast?_cons_cons] at hw'
      exact h.last w' hw'

lemma CutFrom.cutShort {rs ss : List Stretch} (h : CutFrom rs ss) (hne : ∀ r ∈ rs, r.text ≠ []) :
    CutShort (rs.map Stretch.text) (ss.map Stretch.text) := by
  induction h with
  | nil ss => exact ⟨Nat.zero_le _, by simp, by simp⟩
  | last start hkept h ss => exact ⟨by simp, by simp, by simpa using ⟨hkept, h⟩⟩
  | cons s _ ih =>
    obtain ⟨hs, hne⟩ := List.forall_mem_cons.mp hne
    exact (ih hne).cons hs

/-! ### Lines that are cut -/

/-- What is left where a line is cut to its first characters. -/
structure KeepsStretches (line : Text) : Prop where
  /-- The stretches are the same as before, but for the last, of which a start is left, -/
  texts : ∀ n, CutShort ((stretches (statementLine (some n) line)).map Stretch.text)
    ((stretches line).map Stretch.text)
  /-- and they stand where they stood. -/
  places : ∀ n, (stretches (statementLine (some n) line)).map Stretch.start <+:
    (stretches line).map Stretch.start
  /-- With more characters there are no fewer stretches, -/
  length_mono : ∀ n m, n ≤ m →
    (stretches (statementLine (some n) line)).length ≤
      (stretches (statementLine (some m) line)).length
  /-- and with all characters there are all. -/
  whole : ∀ n, line.length ≤ n → stretches (statementLine (some n) line) = stretches line
  /-- A statement loses no other words, whatever it may keep, and it is truncated only if it was. -/
  statement : ∀ n limit, 1 ≤ limit → ∃ s t,
    Statement.ofLine (statementLine (some n) line) limit = .ok s ∧
      Statement.ofLine line limit = .ok t ∧ CutShort s.words t.words ∧
      (s.truncated = true → t.truncated = true)

lemma statementLine_unbroken {line : Text} (h : Unbroken line) (n : Nat) :
    statementLine (some n) line = line.take n := by
  rw [statementLine, dropTerminator_unbroken h]

lemma text_ne_nil {line : Text} {s : Stretch} (h : s ∈ stretches line) : s.text ≠ [] :=
  (mem_stretches.mp h).ne_nil

/-- Where an unbroken line is cut, only the last word that is left may have lost characters. -/
theorem Statement.ofLine_cut {line : Text} (h : Unbroken line) : KeepsStretches line where
  texts n := by
    rw [statementLine_unbroken h]
    exact (cutFrom_stretches_take line n).cutShort fun _ => text_ne_nil
  places n := by
    rw [statementLine_unbroken h]
    exact (cutFrom_stretches_take line n).map_start
  length_mono n m hnm := by
    rw [statementLine_unbroken h, statementLine_unbroken h]
    have hcut := (cutFrom_stretches_take (line.take m) n).length_le
    rwa [List.take_take, Nat.min_eq_left hnm] at hcut
  whole n hn := by
    rw [statementLine_unbroken h, List.take_of_length_le hn]
  statement n limit hlimit := by
    have hcut : Unbroken (line.take n) := h.subset (List.take_subset n line)
    have hkept := cutFrom_stretches_take line n
    rw [statementLine_unbroken h]
    refine ⟨_, _, Statement.ofLine_unbroken hcut hlimit, Statement.ofLine_unbroken h hlimit, ?_, ?_⟩
    · rw [words_ofWords, words_ofWords, ← map_text_stretches, ← map_text_stretches,
        ← List.map_take, ← List.map_take]
      exact (hkept.take limit.toNat).cutShort fun _ hr => text_ne_nil (List.mem_of_mem_take hr)
    · have hlength := hkept.length_le
      rw [length_stretches, length_stretches] at hlength
      simp only [ofWords, decide_eq_true_eq]
      omega

/-- A cut inside the second word of three, where two may be kept. -/
theorem Statement.ofLine_cut_word :
    let line : Text := " LOOP\tADD X"
    Unbroken line ∧ statementLine (some 8) line = " LOOP\tAD" ∧
      ∃ s t, Statement.ofLine " LOOP\tAD" 2 = .ok s ∧ Statement.ofLine line 2 = .ok t ∧
        CutShort s.words t.words ∧ (s.truncated = true → t.truncated = true) ∧
        s.words = ["LOOP", "AD"] ∧ t.words = ["LOOP", "ADD"] := by
  intro line
  have hline : Unbroken line := by decide
  obtain ⟨s, t, hs, ht, hwords, htruncated⟩ :=
    (Statement.ofLine_cut hline).statement 8 2 (by decide)
  refine ⟨hline, rfl, s, t, hs, ht, hwords, htruncated, ?_, ?_⟩
  · obtain rfl := Except.ok.inj hs
    rfl
  · obtain rfl := Except.ok.inj ht
    rfl

end AsmLint
