import AsmLint.Check
import AsmLint.Proofs.Text.Lines

/-!
# Statements on unbroken lines

An unbroken line can always be cut into tokens, so the judgement on it is a function of its words.
-/

namespace AsmLint

/-! ### Words -/

/-- A word is not empty, and its characters are characters of the line other than delimiters. -/
theorem mem_words {line w : Text} (h : w ∈ words line) :
    w ≠ [] ∧ ∀ c ∈ w, isDelimiter c = false ∧ c ∈ line := by
  obtain ⟨hw, hne⟩ := List.mem_filter.mp h
  exact ⟨by simpa using hne, fun c hc => eq_false_of_mem_splitOnP hw hc⟩

lemma newline_notMem_words {line w : Text} (hl : Unbroken line) (h : w ∈ words line) : '\n' ∉ w :=
  fun hc => hl.2 ((mem_words h).2 _ hc).2

/-! ### Tokens and statements -/

lemma any_isTerminator {line : Text} : line.any isTerminator = true ↔ ¬Unbroken line := by
  rw [iff_not_comm, Bool.not_eq_true, List.any_eq_false]
  simp only [Bool.not_eq_true, isTerminator_eq_false]
  constructor
  · exact fun h c hc => ⟨fun hr => h.1 (hr ▸ hc), fun hn => h.2 (hn ▸ hc)⟩
  · exact fun h => ⟨fun hr => (h _ hr).1 rfl, fun hn => (h _ hn).2 rfl⟩

theorem Token.ofLine_unbroken {line : Text} (h : Unbroken line) {limit : Int} (hk : 1 ≤ limit) :
    Token.ofLine line limit = .ok (Token.number ((words line).take limit.toNat)) := by
  rw [Token.ofLine, if_neg (by omega), if_neg (mt any_isTerminator.mp (not_not.mpr h))]

theorem Token.ofLine_not_unbroken {line : Text} (h : ¬Unbroken line) {limit : Int}
    (hk : 1 ≤ limit) : Token.ofLine line limit = .error (.terminator line) := by
  rw [Token.ofLine, if_neg (by omega), if_pos (any_isTerminator.mpr h)]

theorem Token.ofLine_badLimit (line : Text) {limit : Int} (hk : limit < 1) :
    Token.ofLine line limit = .error (.badLimit limit) := if_pos hk

/-- Just the unbroken lines are cut into tokens, by a limit that keeps one. -/
lemma Token.ofLine_eq_ok {line : Text} {limit : Int} {ts : List Token} :
    Token.ofLine line limit = .ok ts ↔
      1 ≤ limit ∧ Unbroken line ∧ ts = Token.number ((words line).take limit.toNat) := by
  by_cases hk : 1 ≤ limit
  · by_cases h : Unbroken line
    · simp [Token.ofLine_unbroken h hk, hk, h, eq_comm]
    · simp [Token.ofLine_not_unbroken h hk, h]
  · simp [Token.ofLine_badLimit line (Int.not_le.mp hk), hk]

@[simp] lemma Token.take_number (ws : List Text) (n : Nat) :
    (Token.number ws).take n = Token.number (ws.take n) := by
  apply List.ext_getElem <;> simp [Token.number]

@[simp] lemma Token.length_number (ws : List Text) : (Token.number ws).length = ws.length := by
  simp [Token.number]

/-- The statement of a line of the given words. -/
def Statement.ofWords (ws : List Text) (limit : Int) : Statement :=
  ⟨Token.number (ws.take limit.toNat), limit.toNat < ws.length⟩

@[simp] lemma Statement.words_ofWords (ws : List Text) (limit : Int) :
    (Statement.ofWords ws limit).words = ws.take limit.toNat := by
  simp [Statement.ofWords, Statement.words]

theorem Statement.ofLine_unbroken {line : Text} (h : Unbroken line) {limit : Int} (hk : 1 ≤ limit) :
    Statement.ofLine line limit = .ok (.ofWords (AsmLint.words line) limit) := by
  have hsucc : (limit + 1).toNat = limit.toNat + 1 := by omega
  rw [Statement.ofLine, if_neg (by omega), Token.ofLine_unbroken h (by omega), hsucc]
  simp only [Token.take_number, Token.length_number, List.take_take, List.length_take,
    Statement.ofWords, Except.ok.injEq, Statement.mk.injEq]
  refine ⟨by rw [Nat.min_eq_left (Nat.le_succ _)], ?_⟩
  rw [decide_eq_decide]
  omega

theorem Statement.ofLine_not_unbroken {line : Text} (h : ¬Unbroken line) {limit : Int}
    (hk : 1 ≤ limit) : Statement.ofLine line limit = .error (.terminator line) := by
  rw [Statement.ofLine, if_neg (by omega), Token.ofLine_not_unbroken h (by omega)]

theorem Statement.ofLine_badLimit (line : Text) {limit : Int} (hk : limit < 1) :
    Statement.ofLine line limit = .error (.badLimit limit) := if_pos hk

/-- A statement is cut from a line where tokens are. -/
lemma Statement.ofLine_eq_ok {line : Text} {limit : Int} {s : Statement} :
    Statement.ofLine line limit = .ok s ↔
      1 ≤ limit ∧ Unbroken line ∧ s = .ofWords (AsmLint.words line) limit := by
  by_cases hk : 1 ≤ limit
  · by_cases h : Unbroken line
    · simp [Statement.ofLine_unbroken h hk, hk, h, eq_comm]
    · simp [Statement.ofLine_not_unbroken h hk, h]
  · simp [Statement.ofLine_badLimit line (Int.not_le.mp hk), hk]

end AsmLint
