import AsmLint.Proofs.Statement

/-!
# Words as longest runs

The words of a line are its longest runs of characters that are no delimiters. This says what they
are without splitting anything: delimiters are passed over, and a word reaches up to a delimiter or
to the end of the line. Words that are written with single spaces between them are found again.
-/

namespace AsmLint

/-- Whether the longest runs of characters of a line that are no delimiters are the given words. -/
inductive HasWords : Text → List Text → Prop
  | nil : HasWords [] []
  | delimiter {c : Char} {t : Text} {ws : List Text} (hc : isDelimiter c) (h : HasWords t ws) :
      HasWords (c :: t) ws
  | word {w t : Text} {ws : List Text} (hne : w ≠ []) (hw : ∀ c ∈ w, isDelimiter c = false)
      (ht : ∀ c ∈ t.head?, isDelimiter c) (h : HasWords t ws) : HasWords (w ++ t) (w :: ws)

lemma words_append_of_delimiter {w t : Text} (hne : w ≠ []) (hw : ∀ c ∈ w, isDelimiter c = false)
    (ht : ∀ c ∈ t.head?, isDelimiter c) : words (w ++ t) = w :: words t := by
  cases t with
  | nil => simp [words_eq_singleton hw hne]
  | cons c t =>
    have hc : isDelimiter c := ht c rfl
    rw [words_append_cons hc, words_cons_delimiter hc, words_eq_singleton hw hne,
      List.singleton_append]

lemma HasWords.words_eq {line : Text} {ws : List Text} (h : HasWords line ws) :
    words line = ws := by
  induction h with
  | nil => rfl
  | delimiter hc _ ih => rw [words_cons_delimiter hc, ih]
  | word hne hw ht _ ih => rw [words_append_of_delimiter hne hw ht, ih]

/-- A character in front of a line joins the first word, or is a word of its own. -/
lemma HasWords.exists_cons {c : Char} (hc : isDelimiter c = false) {t : Text} {ws : List Text}
    (h : HasWords t ws) : ∃ ws', HasWords (c :: t) ws' := by
  have hone : ∀ d ∈ [c], isDelimiter d = false := by simpa using hc
  cases h with
  | nil => exact ⟨[[c]], .word (w := [c]) (t := []) (by simp) hone (by simp) .nil⟩
  | @delimiter d t ws hd h =>
    refine ⟨[c] :: ws, .word (w := [c]) (t := d :: t) (by simp) hone ?_ (.delimiter hd h)⟩
    rintro _ ⟨⟩
    exact hd
  | @word w t ws hne hw ht h =>
    exact ⟨(c :: w) :: ws, .word (by simp) (List.forall_mem_cons.mpr ⟨hc, hw⟩) ht h⟩

lemma exists_hasWords (line : Text) : ∃ ws, HasWords line ws := by
  induction line with
  | nil => exact ⟨[], .nil⟩
  | cons c t ih =>
    obtain ⟨ws, h⟩ := ih
    cases hc : isDelimiter c with
    | true => exact ⟨ws, .delimiter hc h⟩
    | false => exact h.exists_cons hc

/-- The words that are found are the longest runs. -/
theorem hasWords_iff {line : Text} {ws : List Text} : HasWords line ws ↔ words line = ws := by
  constructor
  · exact HasWords.words_eq
  · rintro rfl
    obtain ⟨ws, h⟩ := exists_hasWords line
    rwa [h.words_eq]

/-! ### Words that are written -/

lemma words_append_space {w t : Text} (hw : w ≠ [] ∧ ∀ c ∈ w, isDelimiter c = false) :
    words (w ++ ' ' :: t) = w :: words t := by
  have hspace : isDelimiter ' ' := by decide
  rw [words_append_of_delimiter hw.1 hw.2 (by simpa using hspace), words_cons_delimiter hspace]

/-- Words with a space behind each are found again. -/
theorem words_flatMap_space {ws : List Text}
    (h : ∀ w ∈ ws, w ≠ [] ∧ ∀ c ∈ w, isDelimiter c = false) :
    words (ws.flatMap (· ++ [' '])) = ws := by
  induction ws with
  | nil => rfl
  | cons w ws ih =>
    obtain ⟨hw, hws⟩ := List.forall_mem_cons.mp h
    rw [List.flatMap_cons, List.append_assoc, List.singleton_append, words_append_space hw, ih hws]

/-- Words with single spaces between them are found again. -/
theorem words_joinWith {ws : List Text} (h : ∀ w ∈ ws, w ≠ [] ∧ ∀ c ∈ w, isDelimiter c = false) :
    words (joinWith [' '] ws) = ws := by
  induction ws with
  | nil => rfl
  | cons w ws ih =>
    obtain ⟨hw, hws⟩ := List.forall_mem_cons.mp h
    have hrest := ih hws
    rw [joinWith] at hrest ⊢
    cases ws with
    | nil => simpa using words_eq_singleton hw.2 hw.1
    | cons w' ws =>
      rw [List.intercalate_cons_cons, List.append_assoc, List.singleton_append,
        words_append_space hw, hrest]

end AsmLint
