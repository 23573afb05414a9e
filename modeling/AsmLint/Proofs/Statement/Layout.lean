import AsmLint.Proofs.Statement.Stretches

/-!
# Lines as they are laid out

Words are laid out in a line with delimiters in front of each and behind the last: the first word
and the end of the line need none. Every line is laid out so, and every way of laying out the same
words has the same tokens.
-/

namespace AsmLint

/-! ### Layouts -/

/-- A word and the delimiters in front of it. -/
structure SpacedWord where
  gap : Text
  word : Text
  delimiters : ∀ c ∈ gap, isDelimiter c
  ne_nil : word ≠ []
  plain : ∀ c ∈ word, isDelimiter c = false

/-- Words as they are laid out in a line. -/
structure Layout where
  entries : List SpacedWord
  /-- Only the first word may stand without a delimiter in front of it. -/
  apart : ∀ e ∈ entries.tail, e.gap ≠ []
  trailing : Text
  delimiters : ∀ c ∈ trailing, isDelimiter c

namespace Layout

def text (L : Layout) : Text := L.entries.flatMap (fun e => e.gap ++ e.word) ++ L.trailing

def words (L : Layout) : List Text := L.entries.map SpacedWord.word

lemma words_delimiters_append {gap : Text} (h : ∀ c ∈ gap, isDelimiter c) (line : Text) :
    AsmLint.words (gap ++ line) = AsmLint.words line := by
  induction gap with
  | nil => rfl
  | cons c gap ih =>
    obtain ⟨hc, hgap⟩ := List.forall_mem_cons.mp h
    rw [List.cons_append, words_cons_delimiter hc, ih hgap]

/-- The words that are laid out are the words of the line. -/
theorem words_text (L : Layout) : AsmLint.words L.text = L.words := by
  obtain ⟨entries, hapart, trailing, htrailing⟩ := L
  simp only [text, words]
  induction entries with
  | nil => simpa using words_delimiters_append htrailing []
  | cons e entries ih =>
    have hlater : ∀ e ∈ entries.tail, e.gap ≠ [] := fun e he => hapart e (List.mem_of_mem_tail he)
    have hhead : ∀ c ∈ (entries.flatMap (fun e => e.gap ++ e.word) ++ trailing).head?,
        isDelimiter c := by
      cases entries with
      | nil => exact fun c hc => htrailing c (List.mem_of_mem_head? hc)
      | cons e' entries =>
        obtain ⟨c, gap, hgap⟩ := List.exists_cons_of_ne_nil (hapart e' List.mem_cons_self)
        intro d hd
        obtain rfl : c = d := by simpa [hgap] using hd
        exact e'.delimiters c (hgap ▸ List.mem_cons_self)
    rw [List.flatMap_cons, List.append_assoc, List.append_assoc,
      words_delimiters_append e.delimiters, words_append_of_delimiter e.ne_nil e.plain hhead,
      ih hlater, List.map_cons]

lemma exists_of_hasWords {line : Text} {ws : List Text} (h : HasWords line ws) :
    ∃ L : Layout, L.text = line ∧ L.words = ws := by
  induction h with
  | nil => exact ⟨⟨[], by simp, [], by simp⟩, rfl, rfl⟩
  | @delimiter c t ws hc _ ih =>
    obtain ⟨⟨entries, hapart, trailing, htrailing⟩, rfl, rfl⟩ := ih
    cases entries with
    | nil => exact ⟨⟨[], hapart, c :: trailing, List.forall_mem_cons.mpr ⟨hc, htrailing⟩⟩, rfl, rfl⟩
    | cons e entries =>
      let first : SpacedWord :=
        ⟨c :: e.gap, e.word, List.forall_mem_cons.mpr ⟨hc, e.delimiters⟩, e.ne_nil, e.plain⟩
      exact ⟨⟨first :: entries, hapart, trailing, htrailing⟩, rfl, rfl⟩
  | @word w t ws hne hw ht _ ih =>
    obtain ⟨⟨entries, hapart, trailing, htrailing⟩, rfl, rfl⟩ := ih
    have hgaps : ∀ e ∈ entries, e.gap ≠ [] := by
      cases entries with
      | nil => simp
      | cons e entries =>
        refine List.forall_mem_cons.mpr ⟨fun hgap => ?_, hapart⟩
        -- without a gap the second word would go on with the first
        obtain ⟨c, word, hword⟩ := List.exists_cons_of_ne_nil e.ne_nil
        have hc : isDelimiter c := ht c (by simp [text, hgap, hword])
        rw [e.plain c (hword ▸ List.mem_cons_self)] at hc
        cases hc
    let first : SpacedWord := ⟨[], w, by simp, hne, hw⟩
    refine ⟨⟨first :: entries, hgaps, trailing, htrailing⟩, ?_, rfl⟩
    simp [text, first]

/-- Every line is laid out in one way, at least. -/
theorem exists_layout (line : Text) : ∃ L : Layout, L.text = line ∧ L.words = AsmLint.words line :=
  exists_of_hasWords (hasWords_iff.mpr rfl)

/-- A line that is laid out breaks only where one of its words does. -/
lemma unbroken_text {L : Layout} (h : ∀ w ∈ L.words, Unbroken w) : Unbroken L.text := by
  have hmem : ∀ c ∈ L.text, isDelimiter c ∨ ∃ w ∈ L.words, c ∈ w := by
    intro c hc
    rcases List.mem_append.mp hc with hc | hc
    · obtain ⟨e, he, hc⟩ := List.mem_flatMap.mp hc
      rcases List.mem_append.mp hc with hc | hc
      · exact .inl (e.delimiters c hc)
      · exact .inr ⟨e.word, List.mem_map_of_mem he, hc⟩
    · exact .inl (L.delimiters c hc)
  constructor <;> intro hc <;> rcases hmem _ hc with hdelimiter | ⟨w, hw, hcw⟩
  · exact absurd hdelimiter (by decide)
  · exact (h w hw).1 hcw
  · exact absurd hdelimiter (by decide)
  · exact (h w hw).2 hcw

end Layout

/-! ### Tokens -/

namespace Token

/-- Whether tokens are the given words, counted from 0. -/
def Numbered (ts : List Token) (ws : List Text) : Prop :=
  ts.map Token.text = ws ∧ ts.map Token.index = List.range ws.length

lemma numbered_number (ws : List Text) : Numbered (number ws) ws := by
  refine ⟨map_text_number ws, ?_⟩
  apply List.ext_getElem <;> simp [number]

/-- What tokens are read where at most so many are kept. -/
structure ReadsStretches (limit : Int) : Prop where
  /-- The stretches of a line are its longest runs of characters that are no delimiters, -/
  listed : ∀ line, (stretches line).Pairwise (·.stop < ·.start) ∧
    ∀ s : Stretch, s ∈ stretches line ↔ s.In line
  /-- and the first of them are its tokens. -/
  tokens : ∀ line, Unbroken line → ∃ ts, Token.ofLine line limit = .ok ts ∧
    Numbered ts (((stretches line).map Stretch.text).take limit.toNat)
  /-- Every line is laid out, with its stretches as the words. -/
  laidOut : ∀ line, ∃ L : Layout, L.text = line ∧ L.words = (stretches line).map Stretch.text
  /-- However words are laid out, the first of them are the tokens. -/
  layouts : ∀ L : Layout, (∀ w ∈ L.words, Unbroken w) → ∃ ts, Token.ofLine L.text limit = .ok ts ∧
    Numbered ts (L.words.take limit.toNat)
  /-- Tokens with single spaces between them are read again, by every limit that keeps so many. -/
  joined : ∀ line ts, Token.ofLine line limit = .ok ts → ∀ k : Int, 1 ≤ k → ts.length ≤ k →
    Token.ofLine (joinWith [' '] (ts.map Token.text)) k = .ok ts

lemma ofLine_text {L : Layout} (hL : ∀ w ∈ L.words, Unbroken w) {limit : Int} (h : 1 ≤ limit) :
    Token.ofLine L.text limit = .ok (number (L.words.take limit.toNat)) := by
  rw [Token.ofLine_unbroken (Layout.unbroken_text hL) h, L.words_text]

/-- Words of a line that have single spaces between them are laid out. -/
lemma exists_layout_joinWith {line : Text} (h : Unbroken line) {ws : List Text}
    (hws : ws ⊆ words line) :
    ∃ L : Layout, L.text = joinWith [' '] ws ∧ L.words = ws ∧ ∀ w ∈ ws, Unbroken w := by
  obtain ⟨L, hL, hwords⟩ := Layout.exists_layout (joinWith [' '] ws)
  refine ⟨L, hL, ?_, fun w hw => h.subset fun c hc => ((mem_words (hws hw)).2 c hc).2⟩
  rw [hwords]
  apply words_joinWith
  intro w hw
  obtain ⟨hne, hc⟩ := mem_words (hws hw)
  exact ⟨hne, fun c h => (hc c h).1⟩

end Token

/-- The tokens of a line are its first stretches, from left to right. -/
theorem Token.ofLine_stretches {limit : Int} (h : 1 ≤ limit) : Token.ReadsStretches limit where
  listed line := ⟨pairwise_stretches line, fun _ => mem_stretches⟩
  tokens line hline := by
    rw [map_text_stretches]
    exact ⟨_, Token.ofLine_unbroken hline h, numbered_number _⟩
  laidOut line := by
    rw [map_text_stretches]
    exact Layout.exists_layout line
  layouts L hL := ⟨_, ofLine_text hL h, numbered_number _⟩
  joined line ts hts k hk hlength := by
    obtain ⟨-, hline, rfl⟩ := Token.ofLine_eq_ok.mp hts
    obtain ⟨L, hL, hwords, hunbroken⟩ :=
      exists_layout_joinWith hline (List.take_subset limit.toNat (words line))
    have hall : ((words line).take limit.toNat).take k.toNat = (words line).take limit.toNat := by
      rw [length_number] at hlength
      exact List.take_of_length_le (by omega)
    rw [map_text_number, ← hL, ofLine_text (by rwa [hwords]) hk, hwords, hall]

/-- Two tokens of three, with delimiters of both kinds around them. -/
theorem Token.ofLine_stretches_capped :
    let line : Text := "\t AB \tC;D  E "
    let ts : List Token := [⟨"AB", 0⟩, ⟨"C;D", 1⟩]
    (1 : Int) ≤ 2 ∧ Unbroken line ∧ stretches line = [⟨2, "AB"⟩, ⟨6, "C;D"⟩, ⟨11, "E"⟩] ∧
      (∃ ts', Token.ofLine line 2 = .ok ts' ∧ Token.Numbered ts' ["AB", "C;D"]) ∧
      Token.ofLine line 2 = .ok ts ∧ Token.ofLine "AB C;D" 2 = .ok ts := by
  intro line ts
  have hlimit : (1 : Int) ≤ 2 := by decide
  have hline : Unbroken line := by decide
  have hts : Token.ofLine line 2 = .ok ts := rfl
  have hreads := Token.ofLine_stretches hlimit
  exact ⟨hlimit, hline, rfl, hreads.tokens line hline, hts,
    hreads.joined line ts hts 2 hlimit (by decide)⟩

end AsmLint
