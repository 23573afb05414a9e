import AsmLint.Proofs.Check.Parts
import AsmLint.Proofs.Recording.Difference
import AsmLint.Proofs.Report.Characters

/-!
# Reports that are compared

The comparison of two reports finds any difference but one: which characters end the lines of a
stored report. A report is written with line feeds alone, but its tokens may hold any of the other
characters, and two tokens that differ only in these are not told apart.
-/

namespace AsmLint

/-! ### Runs over any lines -/

section

variable {ε : Type} {o : CheckOptions}

lemma Block.ofLine_eq_ok {number : Nat} {line : Text} {b : Block}
    (h : Block.ofLine o number line = .ok b) :
    Unbroken line ∧ b = .ofWords o number (words line) := by
  by_cases ho : 1 ≤ o.maxTokens
  · by_cases hline : Unbroken line
    · rw [Block.ofLine_unbroken ho number hline] at h
      exact ⟨hline, (Except.ok.inj h).symm⟩
    · rw [Block.ofLine_not_unbroken ho number hline] at h
      cases h
  · rw [Block.ofLine, judgeLine, Statement.ofLine, if_pos (by omega)] at h
    cases h

/-- A block belongs to an unbroken line, be the others what they are. -/
lemma mem_blocksFrom {number : Nat} {lines : List Text} {b : Block}
    (h : b ∈ (blocksFrom o number lines).1) :
    ∃ n, ∃ line ∈ lines, Unbroken line ∧ b = .ofWords o n (words line) := by
  induction lines generalizing number with
  | nil => cases h
  | cons line lines ih =>
    rw [blocksFrom] at h
    cases hblock : Block.ofLine o number line with
    | error e => simp [hblock] at h
    | ok b' =>
      simp only [hblock] at h
      rcases List.mem_cons.mp h with rfl | h
      · obtain ⟨hline, rfl⟩ := Block.ofLine_eq_ok hblock
        exact ⟨number, line, List.mem_cons_self, hline, rfl⟩
      · obtain ⟨n, l, hl, hb⟩ := ih h
        exact ⟨n, l, List.mem_cons_of_mem _ hl, hb⟩

lemma Feed.blocks_check (o : CheckOptions) (f : Feed ε) :
    (f.check o).blocks = (blocksFrom o 1 f.lines).1 := by
  unfold Feed.check
  obtain ⟨blocks, refusal⟩ := blocksFrom o 1 f.lines
  cases refusal <;> cases f.failure <;> rfl

/-- A character of a report ends a line, or it is plain, or it stands in an unbroken line. -/
theorem Feed.mem_out {f : Feed ε} {c : Char} (h : c ∈ (f.check o).out) :
    c = '\n' ∨ isPlain c ∨ ∃ line ∈ f.lines, Unbroken line ∧ c ∈ line := by
  rw [Run.out, unlines, List.mem_flatMap] at h
  obtain ⟨l, hl, hc⟩ := h
  rcases List.mem_append.mp hc with hc | hc
  · obtain ⟨b, hb, hl⟩ := List.mem_flatMap.mp hl
    rw [Feed.blocks_check] at hb
    obtain ⟨n, line, hline, hunbroken, rfl⟩ := mem_blocksFrom hb
    rcases (madeOf_block o n (words line)).1 l hl c hc with hplain | ⟨w, hw, hcw⟩
    · exact .inr (.inl hplain)
    · exact .inr (.inr ⟨line, hline, hunbroken, ((mem_words hw).2 c hcw).2⟩)
  · exact .inl (List.mem_singleton.mp hc)

lemma isReportBreak_eq_false_of_isPlain {c : Char} (h : isPlain c) : isReportBreak c = false := by
  simp only [isPlain, Bool.and_eq_true, decide_eq_true_eq] at h
  simp only [isReportBreak, Bool.or_eq_false_iff, Bool.and_eq_false_iff, decide_eq_false_iff_not]
  omega

lemma Feed.carriageReturn_notMem_out (o : CheckOptions) (f : Feed ε) :
    '\r' ∉ (f.check o).out := by
  intro h
  rcases Feed.mem_out h with h | h | ⟨line, -, hunbroken, h⟩
  · exact absurd h (by decide)
  · exact absurd h (by decide)
  · exact hunbroken.1 h

lemma allLinesEnd_unlines (ls : List Text) : AllLinesEnd (unlines ls) := by
  rcases List.eq_nil_or_concat ls with rfl | ⟨ls, l, rfl⟩
  · simp [AllLinesEnd]
  · intro c hc
    rw [List.concat_eq_append, unlines_append, unlines_cons, unlines_nil, ← List.append_assoc,
      List.getLast?_concat] at hc
    rw [← Option.some.inj hc]
    exact isReportBreak_newline

end

/-! ### Reports -/

/-- Two reports are found to differ just when they do, as far as it does not lie in the characters
that end lines alone, and there is always something to tell of a difference. So any difference is
found between reports on lines that hold no such character. -/
theorem Feed.check_compared {ε₁ ε₂ : Type} (o₁ o₂ : CheckOptions) (f₁ : Feed ε₁) (f₂ : Feed ε₂) :
    let out₁ := (f₁.check o₁).out
    let out₂ := (f₂.check o₂).out
    (Difference.ofReports out₁ out₂ = none ↔ SameButBreaks out₁ out₂) ∧
      (∀ d, Difference.ofReports out₁ out₂ = some d → d.message ≠ []) ∧
      ((∀ line ∈ f₁.lines ++ f₂.lines, ∀ c ∈ line, isReportBreak c = false) → out₁ ≠ out₂ →
        ∃ d, Difference.ofReports out₁ out₂ = some d) := by
  intro out₁ out₂
  have hnone : Difference.ofReports out₁ out₂ = none ↔ SameButBreaks out₁ out₂ := by
    rw [Difference.ofReports, Difference.ofLines_eq_none_iff]
    exact reportLines_eq_reportLines_iff (Feed.carriageReturn_notMem_out o₁ f₁)
      (Feed.carriageReturn_notMem_out o₂ f₂) (allLinesEnd_unlines _) (allLinesEnd_unlines _)
  refine ⟨hnone, fun d _ => d.message_ne_nil, ?_⟩
  intro hlines hne
  have hbreak {ε : Type} {o : CheckOptions} {f : Feed ε} (hf : f.lines ⊆ f₁.lines ++ f₂.lines) :
      ∀ c ∈ (f.check o).out, isReportBreak c → c = '\n' := by
    intro c hc hbreak
    rcases Feed.mem_out hc with h | h | ⟨line, hline, -, h⟩
    · exact h
    · exact absurd hbreak (by simp [isReportBreak_eq_false_of_isPlain h])
    · exact absurd hbreak (by simp [hlines line (hf hline) c h])
  rw [← Option.ne_none_iff_exists', Ne, hnone]
  intro hsame
  exact hne (hsame.eq (hbreak (List.subset_append_left _ _))
    (hbreak (List.subset_append_right _ _)))

/-- One word in place of another. -/
theorem Feed.check_compared_told :
    let f : Feed SystemError := ⟨["STOP"], none⟩
    let g : Feed SystemError := ⟨["A\tB"], some (.numbered 5 "Input/output error")⟩
    let o : CheckOptions := { explain := true }
    (∀ line ∈ f.lines ++ g.lines, ∀ c ∈ line, isReportBreak c = false) ∧
      (f.check {}).out ≠ (g.check o).out ∧
      ∃ d, Difference.ofReports (f.check {}).out (g.check o).out = some d := by
  intro f g o
  have hall : (f.lines ++ g.lines).all (·.all (!isReportBreak ·)) = true := by decide
  have hlines : ∀ line ∈ f.lines ++ g.lines, ∀ c ∈ line, isReportBreak c = false := by
    intro line hline c hc
    exact (Bool.not_eq_true' _).mp (List.all_eq_true.mp (List.all_eq_true.mp hall line hline) c hc)
  have hne : (f.check {}).out ≠ (g.check o).out := by decide
  exact ⟨hlines, hne, (Feed.check_compared {} o f g).2.2 hlines hne⟩

/-- A vertical tab in place of a form feed. -/
theorem Feed.check_compared_untold :
    let out (line : Text) : Text := (Feed.check {} (⟨[line], none⟩ : Feed SystemError)).out
    Unbroken ("A\x0bB" : Text) ∧ Unbroken ("A\x0cB" : Text) ∧
      out "A\x0bB" = "Error (Line 1): Invalid Mnemonic Instruction 'A\x0bB'\n" ∧
      out "A\x0cB" = "Error (Line 1): Invalid Mnemonic Instruction 'A\x0cB'\n" ∧
      out "A\x0bB" ≠ out "A\x0cB" ∧
      Difference.ofReports (out "A\x0bB") (out "A\x0cB") = none := by
  decide

end AsmLint
