import AsmLint.Proofs.Verdict.Grammar
import AsmLint.ReportLine
import Mathlib.Data.List.Forall2
import Mathlib.Data.List.Infix

/-!
# Notes on violations

A note is made of the word that is held against a statement, and not of the rule by which it is. It
tells the reason all the same. A slot keeps out vocabularies that are among the five, no word is in
two of these, and words with spaces between them are no reserved word. So a note names the one
vocabulary that the slot keeps out and that has the word, and what else it may say is said of
nothing but a lone word that is not reserved, and of a statement as a whole.
-/

namespace AsmLint

/-! ### The vocabularies of a word -/

namespace Vocabulary

lemma mem_words_iff {v : Vocabulary} (hv : v ∈ all) {w : Text} (hw : w ∈ v.words) :
    ∀ v' ∈ all, w ∈ v'.words ↔ v' = v := by
  intro v' hv'
  constructor
  · exact fun hw' => eq_of_mem_words hv' hv hw' hw
  · rintro rfl
    exact hw

lemma having_of_mem {v : Vocabulary} (hv : v ∈ all) {w : Text} (hw : w ∈ v.words) :
    having w = [v] := by
  have hnodup : all.Nodup := by decide
  have hone : all.filter (· = v) = [v] := by
    rw [List.filter_eq, List.count_eq_one_of_mem hnodup hv, List.replicate_one]
  rw [← hone, having]
  apply List.filter_congr
  intro v' hv'
  rw [Bool.eq_iff_iff, has_eq_true, mem_words_iff hv hw v' hv', decide_eq_true_eq]

lemma having_eq_nil {w : Text} : having w = [] ↔ w ∉ reserved := by
  simp [having, reserved, List.filter_eq_nil_iff]

/-- A reserved word is not empty and holds no space. -/
lemma of_mem_reserved : ∀ w ∈ reserved, w ≠ [] ∧ ' ' ∉ w := by decide

/-- Words that are joined are no reserved word, unless there is just one. -/
lemma joinWith_notMem_reserved {ws : List Text} (h : ws.length ≠ 1) :
    joinWith [' '] ws ∉ reserved := by
  intro hmem
  obtain ⟨hne, hspace⟩ := of_mem_reserved _ hmem
  match ws with
  | [] => exact hne rfl
  | [w] => exact h rfl
  | w :: w' :: ws =>
    apply hspace
    rw [joinWith, List.intercalate_cons_cons]
    simp

end Vocabulary

/-! ### What notes say -/

/-- The note that a word is in a vocabulary. -/
def namingNote (w : Text) (v : Vocabulary) : Text := "'" ++ w ++ "' is " ++ v.indefinite

/-- What the note that a word may not stand alone ends with. -/
def strayEnd : Text := "' is not an allowed word here"

def strayNote (w : Text) : Text := "'" ++ w ++ strayEnd

def shapeNote (count : Nat) : Text :=
  "no rule covers a statement of " ++ decimal count ++ " token(s)"

section

variable (v : Verdict) {x : Violation}

lemma note_of_mem {u : Vocabulary} (hu : u ∈ Vocabulary.all) (hx : x.token ∈ u.words) :
    v.note x = namingNote x.token u := by
  unfold Verdict.note namingNote
  simp [Vocabulary.having_of_mem hu hx, joinWith]

lemma note_stray (hx : x.token ∉ Vocabulary.reserved) (hslot : x.slot ≠ none) :
    v.note x = strayNote x.token := by
  unfold Verdict.note strayNote strayEnd
  simp [Vocabulary.having_eq_nil.mpr hx, hslot]

/-- A statement without rules is never taken for a reserved word. -/
lemma note_shapeViolation {ws : List Text} (h : ws.length ≠ 1) :
    v.note (shapeViolation ws) = shapeNote v.words.length := by
  have hjoined : (shapeViolation ws).token ∉ Vocabulary.reserved :=
    Vocabulary.joinWith_notMem_reserved h
  unfold Verdict.note shapeNote
  rw [Vocabulary.having_eq_nil.mpr hjoined]
  rfl

end

/-- Of all vocabularies the note on a word names the one that has it. -/
lemma infix_namingNote : ∀ v ∈ Vocabulary.all, ∀ w ∈ v.words, ∀ v' ∈ Vocabulary.all,
    v'.singular <:+: namingNote w v ↔ v' = v := by
  decide +kernel

/-- Whether a note says that a word is in a vocabulary, which is the only one that has the word, and
names no other. -/
structure Names (note w : Text) (v : Vocabulary) : Prop where
  text : note = namingNote w v
  holds : ∀ v' ∈ Vocabulary.all, w ∈ v'.words ↔ v' = v
  named : ∀ v' ∈ Vocabulary.all, v'.singular <:+: note ↔ v' = v

lemma names_namingNote {v : Vocabulary} (hv : v ∈ Vocabulary.all) {w : Text} (hw : w ∈ v.words) :
    Names (namingNote w v) w v :=
  ⟨rfl, Vocabulary.mem_words_iff hv hw, infix_namingNote v hv w hw⟩

/-- What is said of a violation by a statement of the given words. -/
inductive Explains (ws : List Text) : Violation → Text → Prop where
  /-- Among other words: a vocabulary that the slot keeps out. -/
  | keptOut {i : Nat} {s : Slot} {w note : Text} {v : Vocabulary}
      (hn : 2 ≤ ws.length ∧ ws.length ≤ 4) (hs : Slot.at? ws.length i = some s)
      (hw : ws[i]? = some w) (hv : v ∈ s.forbidden) (hnote : Names note w v) :
      Explains ws (s.violation i w) note
  /-- Of a lone word: the vocabulary that has it, -/
  | reserved {w note : Text} {v : Vocabulary} (hws : ws = [w]) (hv : v ∈ Vocabulary.all)
      (hnote : Names note w v) : Explains ws (Role.mnemonic.breach 0 w) note
  /-- or that it may not stand alone. -/
  | stray {w : Text} (hws : ws = [w]) (hw : w ∉ Vocabulary.reserved) :
      Explains ws (Role.mnemonic.breach 0 w) (strayNote w)
  /-- Of the statement as a whole: the number of its words. -/
  | shape (hn : ws.length = 0 ∨ 5 ≤ ws.length) :
      Explains ws (shapeViolation ws) (shapeNote ws.length)

/-! ### Slots -/

/-- In a statement of more than one word a slot does nothing but keep out some vocabularies. -/
lemma Slot.of_at? {count number : Nat} {s : Slot} (hs : Slot.at? count number = some s)
    (hn : count ≠ 1) : s.allowed = none ∧ s.forbidden ⊆ Vocabulary.all := by
  rcases Slot.at?_eq_some.mp hs with ⟨h, -⟩ | ⟨-, -, rfl⟩ | ⟨-, -, rfl⟩ | ⟨-, -, rfl⟩ |
    ⟨-, -, rfl⟩
  · exact absurd h hn
  all_goals exact ⟨rfl, by simp [label, mnemonic, register, memory, Vocabulary.all]⟩

/-- The only slot of a lone word. -/
lemma Slot.of_at?_one {number : Nat} {s : Slot} (hs : Slot.at? 1 number = some s) :
    number = 0 ∧ s = Slot.loneMnemonic := by
  rcases Slot.at?_eq_some.mp hs with ⟨-, h⟩ | ⟨h, -⟩ | ⟨h, -⟩ | ⟨h, -⟩ | ⟨h, -⟩
  · exact h
  all_goals omega

lemma Slot.exists_forbidden {s : Slot} (hs : s.allowed = none) {w : Text}
    (hw : s.refuses w = true) : ∃ v ∈ s.forbidden, w ∈ v.words := by
  simpa [WordRule.refuses, hs] using hw

/-- A word that its slot refuses is explained. -/
lemma explains_of_refuses (v : Verdict) {ws : List Text} {i : Nat} {s : Slot} {w : Text}
    (hs : Slot.at? ws.length i = some s) (hw : ws[i]? = some w) (hrefuses : s.refuses w = true) :
    Explains ws (s.violation i w) (v.note (s.violation i w)) := by
  by_cases hone : ws.length = 1
  · rw [hone] at hs
    obtain ⟨rfl, rfl⟩ := Slot.of_at?_one hs
    obtain ⟨w', rfl⟩ := List.length_eq_one_iff.mp hone
    obtain rfl : w' = w := by simpa using hw
    by_cases hreserved : w' ∈ Vocabulary.reserved
    · obtain ⟨u, hu, hwu⟩ := List.mem_flatMap.mp hreserved
      rw [note_of_mem v hu hwu]
      exact .reserved rfl hu (names_namingNote hu hwu)
    · rw [note_stray v hreserved (Option.some_ne_none _)]
      exact .stray rfl hreserved
  · have hn : 1 ≤ ws.length ∧ ws.length ≤ 4 := by
      rcases Slot.at?_eq_some.mp hs with h | h | h | h | h <;> omega
    obtain ⟨hopen, hsubset⟩ := Slot.of_at? hs hone
    obtain ⟨u, hu, hwu⟩ := Slot.exists_forbidden hopen hrefuses
    rw [note_of_mem v (hsubset hu) hwu]
    exact .keptOut ⟨by omega, hn.2⟩ hs hw hu (names_namingNote (hsubset hu) hwu)

/-! ### Notes that end alike -/

/-- The last two characters tell that note from the others. -/
lemma not_strayEnd_suffix {tail : Text} (hlength : 2 ≤ tail.length)
    (htail : ¬("re" : Text) <:+ tail) (front : Text) : ¬strayEnd <:+ front ++ tail := by
  intro h
  have hend : ("re" : Text) <:+ front ++ tail := List.IsSuffix.trans (by decide) h
  exact htail (List.suffix_of_suffix_length_le hend (List.suffix_append front tail) hlength)

lemma not_strayEnd_namingNote {v : Vocabulary} (hv : v ∈ Vocabulary.all) (w : Text) :
    ¬strayEnd <:+ namingNote w v := by
  have htail : ∀ v ∈ Vocabulary.all, 2 ≤ v.indefinite.length ∧ ¬("re" : Text) <:+ v.indefinite := by
    decide
  exact not_strayEnd_suffix (htail v hv).1 (htail v hv).2 _

/-- Nothing else that is said ends like the note on a lone word. -/
lemma Explains.stray_of_suffix {ws : List Text} {x : Violation} {note : Text}
    (h : Explains ws x note) (hend : strayEnd <:+ note) :
    ∃ w, ws = [w] ∧ w ∉ Vocabulary.reserved := by
  cases h with
  | keptOut hn hs _ hv hnote =>
    rw [hnote.text] at hend
    exact absurd hend (not_strayEnd_namingNote ((Slot.of_at? hs (by omega)).2 hv) _)
  | reserved _ hv hnote =>
    rw [hnote.text] at hend
    exact absurd hend (not_strayEnd_namingNote hv _)
  | stray hws hw => exact ⟨_, hws, hw⟩
  | shape _ => exact absurd hend (not_strayEnd_suffix (by decide) (by decide) _)

/-- The notes explain the violations one by one, and only a lone word that is not reserved is said
not to be allowed. -/
theorem notes_explain (ws : List Text) (reject : Bool) :
    List.Forall₂ (Explains ws) (judge ws reject).violations (judge ws reject).notes ∧
      ∀ note ∈ (judge ws reject).notes, strayEnd <:+ note →
        ∃ w, ws = [w] ∧ w ∉ Vocabulary.reserved := by
  have hexplains : ∀ x ∈ (judge ws reject).violations,
      Explains ws x ((judge ws reject).note x) := by
    intro x hx
    rcases mem_violations_judge_iff.mp hx with ⟨i, s, w, hs, hw, hrefuses, rfl⟩ | ⟨hn, -, rfl⟩
    · exact explains_of_refuses _ hs hw hrefuses
    · rw [note_shapeViolation _ (by omega), words_judge]
      exact .shape hn
  constructor
  · rw [Verdict.notes, List.forall₂_map_right_iff, List.forall₂_same]
    exact hexplains
  · intro note hnote hend
    obtain ⟨x, hx, rfl⟩ := List.mem_map.mp hnote
    exact (hexplains x hx).stray_of_suffix hend

/-- Empty words beside a reserved one are counted like any other. -/
example : (judge ["", "", "ADD", "", ""] true).notes =
    [("no rule covers a statement of 5 token(s)" : Text)] := by decide

end AsmLint
