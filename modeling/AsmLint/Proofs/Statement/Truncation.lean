import AsmLint.Proofs.Statement.Stretches

/-!
# Statements that are cut short

A statement looks for one token more than it keeps. It is cut from a line just where tokens are, it
keeps the tokens that are read with its own limit, and it is truncated just where something other
than delimiters stands behind the last token that it may keep.
-/

namespace AsmLint

/-! ### Behind a stretch -/

/-- Behind any place in front of a stretch there is more than delimiters. -/
lemma Stretch.In.exists_mem_drop {s : Stretch} {line : Text} (h : s.In line) {i : Nat}
    (hi : i ≤ s.start) : ∃ c ∈ line.drop i, isDelimiter c = false := by
  obtain ⟨front, behind, rfl, hstart, hne, htext, -⟩ := h
  obtain ⟨c, text, heq⟩ := List.exists_cons_of_ne_nil hne
  refine ⟨c, ?_, htext c (heq ▸ List.mem_cons_self)⟩
  rw [List.append_assoc, List.drop_append_of_le_length (by omega), heq]
  simp

variable {line : Text} {r : Stretch} {k : Nat}

/-- Where there is more than delimiters behind a stretch, another one follows it. -/
lemma succ_lt_length_stretches (hr : (stretches line)[k]? = some r)
    (h : ∃ c ∈ line.drop r.stop, isDelimiter c = false) : k + 1 < (stretches line).length := by
  obtain ⟨c, hmem, hc⟩ := h
  obtain ⟨j, hj⟩ := List.getElem?_of_mem hmem
  rw [List.getElem?_drop] at hj
  obtain ⟨s, hs, hstart, hstop⟩ := exists_stretch hj hc
  obtain ⟨m, hm, rfl⟩ := List.getElem_of_mem (mem_stretches.mpr hs)
  obtain ⟨hk, rfl⟩ := List.getElem?_eq_some_iff.mp hr
  have hordered := List.pairwise_iff_getElem.mp (pairwise_stretches line)
  -- the stretch of that character is neither this one nor one in front of it
  by_contra hlength
  rcases Nat.lt_or_eq_of_le (show m ≤ k by omega) with hlt | rfl
  · have hfront := hordered m k hm hk hlt
    have hself : (stretches line)[k].start ≤ (stretches line)[k].stop := Nat.le_add_right ..
    omega
  · omega

/-- There are more stretches than the first ones just where more than delimiters is behind them. -/
theorem succ_lt_length_stretches_iff (hr : (stretches line)[k]? = some r) :
    k + 1 < (stretches line).length ↔ ∃ c ∈ line.drop r.stop, isDelimiter c = false := by
  refine ⟨fun hlength => ?_, succ_lt_length_stretches hr⟩
  obtain ⟨hk, rfl⟩ := List.getElem?_eq_some_iff.mp hr
  have hordered := List.pairwise_iff_getElem.mp (pairwise_stretches line)
  have hnext := mem_stretches.mp (List.getElem_mem hlength)
  exact hnext.exists_mem_drop (hordered k (k + 1) hk hlength (Nat.lt_succ_self k)).le

/-! ### Statements -/

/-- How the statement on a line agrees with its tokens, where both keep so many. -/
structure Statement.Agrees (line : Text) (limit : Int) : Prop where
  /-- It cannot be cut from the line just where they cannot, for the same reason: -/
  error_iff : ∀ e, Statement.ofLine line limit = .error e ↔ Token.ofLine line limit = .error e
  /-- first, that none are to be kept, whatever the line holds; -/
  badLimit : limit < 1 → Token.ofLine line limit = .error (.badLimit limit)
  /-- then, that the line holds a terminator, wherever that stands. -/
  terminator : 1 ≤ limit → ¬Unbroken line → Token.ofLine line limit = .error (.terminator line)
  /-- There is no other reason. -/
  exists_ok : 1 ≤ limit → Unbroken line → ∃ s, Statement.ofLine line limit = .ok s
  /-- It holds those tokens, and no more than it may keep. -/
  tokens : ∀ s, Statement.ofLine line limit = .ok s →
    Token.ofLine line limit = .ok s.tokens ∧ s.tokens.length ≤ limit
  /-- It is truncated just where more than delimiters stands behind the last token it may keep. -/
  truncated_iff : ∀ s, Statement.ofLine line limit = .ok s →
    (s.truncated = true ↔ ∃ t r, s.tokens[limit.toNat - 1]? = some t ∧
      (stretches line)[limit.toNat - 1]? = some r ∧ r.text = t.text ∧
      ∃ c ∈ line.drop r.stop, isDelimiter c = false)

/-- A statement is made of the tokens of its line, and tells whether there are more. -/
theorem Statement.ofLine_agrees (line : Text) (limit : Int) : Statement.Agrees line limit where
  error_iff e := by
    by_cases hlimit : 1 ≤ limit
    · by_cases h : Unbroken line
      · simp [Statement.ofLine_unbroken h hlimit, Token.ofLine_unbroken h hlimit]
      · simp [Statement.ofLine_not_unbroken h hlimit, Token.ofLine_not_unbroken h hlimit]
    · have hbad : limit < 1 := by omega
      simp [Statement.ofLine_badLimit line hbad, Token.ofLine_badLimit line hbad]
  badLimit := Token.ofLine_badLimit line
  terminator hlimit h := Token.ofLine_not_unbroken h hlimit
  exists_ok hlimit h := ⟨_, Statement.ofLine_unbroken h hlimit⟩
  tokens s hs := by
    obtain ⟨hlimit, h, rfl⟩ := Statement.ofLine_eq_ok.mp hs
    refine ⟨Token.ofLine_unbroken h hlimit, ?_⟩
    rw [ofWords, Token.length_number, List.length_take]
    omega
  truncated_iff s hs := by
    obtain ⟨hlimit, -, rfl⟩ := Statement.ofLine_eq_ok.mp hs
    obtain ⟨k, rfl⟩ : ∃ k : Nat, limit = (k + 1 : Nat) := ⟨limit.toNat - 1, by omega⟩
    simp only [ofWords, Int.toNat_natCast, Nat.add_sub_cancel, decide_eq_true_eq,
      ← length_stretches]
    constructor
    · intro hlength
      have hk : (stretches line)[k]? = some (stretches line)[k] :=
        List.getElem?_eq_getElem (by omega)
      refine ⟨⟨(stretches line)[k].text, k⟩, _, ?_, hk, rfl,
        (succ_lt_length_stretches_iff hk).mp hlength⟩
      simp [Token.number, ← map_text_stretches, hk]
    · rintro ⟨t, r, -, hr, -, h⟩
      exact succ_lt_length_stretches hr h

/-- Delimiters behind the last token that is kept are no reason to call the statement truncated. -/
example : Statement.ofLine "A\tB  " 2 = .ok ⟨[⟨"A", 0⟩, ⟨"B", 1⟩], false⟩ := rfl

end AsmLint
