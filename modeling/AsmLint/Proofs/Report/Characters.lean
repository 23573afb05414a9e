import AsmLint.Proofs.Check
import AsmLint.Proofs.Verdict

/-!
# Characters that are written

All that is written about words, on either channel, is made of their characters and of printable
ASCII characters. A character of another kind is found in what is written only if it stands in a
word.
-/

namespace AsmLint

/-- The printable characters of ASCII. -/
def isPlain (c : Char) : Bool := 0x20 ≤ c.toNat && c.toNat < 0x7F

/-- Whether each character of a text is plain or stands in one of the words. -/
def MadeOf (ws : List Text) (t : Text) : Prop := ∀ c ∈ t, isPlain c ∨ ∃ w ∈ ws, c ∈ w

variable {ws : List Text} {s t : Text}

/-! ### Texts made of words -/

lemma madeOf_plain (h : t.all isPlain = true) : MadeOf ws t :=
  fun c hc => .inl (List.all_eq_true.mp h c hc)

lemma madeOf_word (h : t ∈ ws) : MadeOf ws t := fun _ hc => .inr ⟨t, h, hc⟩

lemma MadeOf.append (hs : MadeOf ws s) (ht : MadeOf ws t) : MadeOf ws (s ++ t) := by
  intro c hc
  rcases List.mem_append.mp hc with hc | hc
  · exact hs c hc
  · exact ht c hc

lemma MadeOf.mono {vs : List Text} (h : MadeOf vs t) (hvs : vs ⊆ ws) : MadeOf ws t := by
  intro c hc
  refine (h c hc).imp_right ?_
  rintro ⟨w, hw, hc⟩
  exact ⟨w, hvs hw, hc⟩

lemma MadeOf.notMem (h : MadeOf ws t) {c : Char} (hc : isPlain c = false)
    (hws : ∀ w ∈ ws, c ∉ w) : c ∉ t := by
  intro hmem
  rcases h c hmem with hplain | ⟨w, hw, hcw⟩
  · exact absurd hplain (by simp [hc])
  · exact hws w hw hcw

lemma madeOf_decimal (n : Nat) : MadeOf ws (decimal n) := by
  intro c hc
  have hdigit := isDigit_of_mem_decimal hc
  simp only [Char.isDigit, Bool.and_eq_true, decide_eq_true_eq, ge_iff_le, UInt32.le_iff_toNat_le]
    at hdigit
  simp only [isPlain, Bool.and_eq_true, decide_eq_true_eq]
  refine .inl ⟨?_, ?_⟩
  · exact Nat.le_trans (by decide) hdigit.1
  · exact Nat.lt_of_le_of_lt hdigit.2 (by decide)

lemma madeOf_signedDecimal (n : Int) : MadeOf ws (signedDecimal n) := by
  rw [signedDecimal]
  split_ifs
  · exact .append (s := ['-']) (madeOf_plain (by decide)) (madeOf_decimal _)
  · exact madeOf_decimal _

lemma mem_joinWith {separator : Text} {ts : List Text} {c : Char} (h : c ∈ joinWith separator ts) :
    c ∈ separator ∨ ∃ t ∈ ts, c ∈ t := by
  induction ts with
  | nil => simp [joinWith] at h
  | cons t ts ih =>
    rw [joinWith] at ih h
    cases ts with
    | nil => exact .inr ⟨t, List.mem_cons_self, by simpa using h⟩
    | cons u us =>
      simp only [List.intercalate_cons_cons, List.mem_append] at h
      rcases h with (h | h) | h
      · exact .inr ⟨t, List.mem_cons_self, h⟩
      · exact .inl h
      · exact (ih h).imp_right fun ⟨v, hv, hc⟩ => ⟨v, List.mem_cons_of_mem _ hv, hc⟩

lemma madeOf_joinWith {separator : Text} {ts : List Text} (hs : separator.all isPlain = true)
    (h : ∀ t ∈ ts, MadeOf ws t) : MadeOf ws (joinWith separator ts) := by
  intro c hc
  rcases mem_joinWith hc with hc | ⟨t, ht, hc⟩
  · exact .inl (List.all_eq_true.mp hs c hc)
  · exact h t ht c hc

/-! ### Lines -/

lemma all_isPlain_message (r : Role) : r.message.all isPlain = true := by cases r <;> decide

lemma all_isPlain_indefinite {v : Vocabulary} (h : v ∈ Vocabulary.all) :
    v.indefinite.all isPlain = true := by
  revert v
  decide

lemma madeOf_validLine (number : Int) (ws : List Text) : MadeOf ws (validLine number ws) := by
  have hwords : MadeOf ws (ws.flatMap (· ++ [' '])) := by
    intro c hc
    obtain ⟨w, hw, hc⟩ := List.mem_flatMap.mp hc
    exact (madeOf_word hw).append (t := [' ']) (madeOf_plain (by decide)) c hc
  have hstart : MadeOf ws "[VALID] Line " := madeOf_plain (by decide)
  have hcolon : MadeOf ws ": " := madeOf_plain (by decide)
  unfold validLine
  exact ((hstart.append (madeOf_signedDecimal number)).append hcolon).append hwords

lemma madeOf_errorLine (number : Int) (r : Role) (h : MadeOf ws t) :
    MadeOf ws (errorLine number r.message t) := by
  have hstart : MadeOf ws "Error (Line " := madeOf_plain (by decide)
  have hcolon : MadeOf ws "): " := madeOf_plain (by decide)
  have hopen : MadeOf ws " '" := madeOf_plain (by decide)
  have hclose : MadeOf ws "'" := madeOf_plain (by decide)
  have hmessage : MadeOf ws r.message := madeOf_plain (all_isPlain_message r)
  unfold errorLine
  exact (((((hstart.append (madeOf_signedDecimal number)).append hcolon).append hmessage).append
    hopen).append h).append hclose

lemma madeOf_note (v : Verdict) {x : Violation} (h : MadeOf ws x.token) :
    MadeOf ws (v.note x) := by
  have hquote : MadeOf ws "'" := madeOf_plain (by decide)
  have hkinds :
      MadeOf ws (joinWith " and " ((Vocabulary.having x.token).map Vocabulary.indefinite)) := by
    apply madeOf_joinWith (by decide)
    intro t ht
    obtain ⟨c, hc, rfl⟩ := List.mem_map.mp ht
    exact madeOf_plain (all_isPlain_indefinite (List.mem_of_mem_filter hc))
  have his : MadeOf ws "' is " := madeOf_plain (by decide)
  have hno : MadeOf ws "no rule covers a statement of " := madeOf_plain (by decide)
  have htokens : MadeOf ws " token(s)" := madeOf_plain (by decide)
  have hnot : MadeOf ws "' is not an allowed word here" := madeOf_plain (by decide)
  simp only [Verdict.note]
  split_ifs
  · exact ((hquote.append h).append his).append hkinds
  · exact (hno.append (madeOf_decimal _)).append htokens
  · exact (hquote.append h).append hnot

lemma madeOf_truncationWarning (number : Nat) (maxTokens : Int) :
    MadeOf ws (truncationWarning number maxTokens) := by
  have hstart : MadeOf ws "Warning (Line " := madeOf_plain (by decide)
  have hmore : MadeOf ws "): more than " := madeOf_plain (by decide)
  have honly : MadeOf ws " tokens, only the first " := madeOf_plain (by decide)
  have hend : MadeOf ws " were checked" := madeOf_plain (by decide)
  have hlimit : MadeOf ws (signedDecimal maxTokens) := madeOf_signedDecimal maxTokens
  unfold truncationWarning
  exact (((((hstart.append (madeOf_decimal number)).append hmore).append hlimit).append
    honly).append hlimit).append hend

lemma madeOf_noteLine (number : Nat) (h : MadeOf ws t) : MadeOf ws (noteLine number t) := by
  have hstart : MadeOf ws "  note (Line " := madeOf_plain (by decide)
  have hcolon : MadeOf ws "): " := madeOf_plain (by decide)
  unfold noteLine
  exact ((hstart.append (madeOf_decimal number)).append hcolon).append h

/-! ### Verdicts and blocks -/

lemma madeOf_token {reject : Bool} {x : Violation} (h : x ∈ (judge ws reject).violations) :
    MadeOf ws x.token := by
  rcases (mem_violations_judge h).1 with hw | hw
  · exact madeOf_word hw
  · rw [hw]
    exact madeOf_joinWith (by decide) fun w => madeOf_word

lemma madeOf_report (ws : List Text) (reject : Bool) (number : Int) :
    ∀ l ∈ (judge ws reject).report number, MadeOf ws l := by
  intro l hl
  rw [Verdict.report] at hl
  split_ifs at hl
  · rw [List.mem_singleton.mp hl, words_judge]
    exact madeOf_validLine number ws
  · obtain ⟨x, hx, rfl⟩ := List.mem_map.mp hl
    obtain ⟨r, hr⟩ := (mem_violations_judge hx).2
    rw [hr]
    exact madeOf_errorLine number r (madeOf_token hx)

/-- A block is made of the words of its line. -/
theorem madeOf_block (o : CheckOptions) (number : Nat) (ws : List Text) :
    (∀ l ∈ (Block.ofWords o number ws).report, MadeOf ws l) ∧
      ∀ l ∈ (Block.ofWords o number ws).diagnostics, MadeOf ws l := by
  have hkept : (Statement.ofWords ws o.maxTokens).words ⊆ ws := by
    rw [Statement.words_ofWords]
    exact List.take_subset _ ws
  constructor <;> intro l hl
  · exact (madeOf_report _ o.rejectUnsupported number l hl).mono hkept
  rcases List.mem_append.mp hl with hl | hl
  · split_ifs at hl
    · rw [List.mem_singleton.mp hl]
      exact madeOf_truncationWarning number o.maxTokens
    · simp at hl
  · split_ifs at hl
    · obtain ⟨n, hn, rfl⟩ := List.mem_map.mp hl
      obtain ⟨x, hx, rfl⟩ := List.mem_map.mp hn
      exact madeOf_noteLine number (madeOf_note _ ((madeOf_token hx).mono hkept))
    · simp at hl

end AsmLint
