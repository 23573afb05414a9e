import AsmLint.Proofs.Report.Blocks
import AsmLint.Proofs.Report.Notes
import AsmLint.Proofs.Verdict.Shape

/-!
# Runs that reject unsupported shapes

To hold unsupported shapes against statements changes the blocks of just those lines that keep no
word, or five words and more: what was one line of a valid report becomes one line on an error. All
other blocks stay, and so do the warnings; so the invalid lines remain invalid, and they are joined
by those lines.
-/

namespace AsmLint

/-! ### One line -/

/-- The words of a line that are checked. -/
def keptWords (limit : Int) (line : Text) : List Text := (words line).take limit.toNat

/-- Whether the rules have nothing for the words of a line that are checked. -/
def IsUnsupported (limit : Int) (line : Text) : Prop :=
  (keptWords limit line).length = 0 ∨ 5 ≤ (keptWords limit line).length

instance (limit : Int) : DecidablePred (IsUnsupported limit) :=
  fun _ => inferInstanceAs (Decidable (_ ∨ _))

/-- The report on a statement whose shape is held against it. -/
def shapeLine (number : Nat) (ws : List Text) : Text :=
  "Error (Line " ++ decimal number ++ "): Unsupported statement shape '" ++ joinWith [' '] ws ++ "'"

lemma shapeLine_eq (number : Nat) (ws : List Text) :
    shapeLine number ws = errorLine number Role.shape.message (joinWith [' '] ws) := by
  have hmiddle : ("): Unsupported statement shape '" : Text) =
      "): " ++ (Role.shape.message ++ (" '" : Text)) := rfl
  unfold shapeLine errorLine
  rw [signedDecimal_natCast, hmiddle]
  simp only [List.append_assoc]

/-- The blocks of a line of which the given words are checked, without and with unsupported shapes
being held against statements. -/
inductive Block.Tightened (o : CheckOptions) (number : Nat) (ws : List Text) :
    Block → Block → Prop where
  | supported (h : 1 ≤ ws.length ∧ ws.length ≤ 4) (b : Block) : Tightened o number ws b b
  | unsupported (h : ws.length = 0 ∨ 5 ≤ ws.length) (warned : List Text) (truncated : Bool)
      (hwarned : warned = if truncated then [truncationWarning number o.maxTokens] else []) :
      Tightened o number ws
        ⟨[validLine number ws], warned, true, truncated⟩
        ⟨[shapeLine number ws],
          warned ++ (if o.explain then [noteLine number (shapeNote ws.length)] else []), false,
          truncated⟩

section

variable {ws : List Text} (h : ws.length = 0 ∨ 5 ≤ ws.length) (number : Nat)

include h

/-- A statement without rules is let through, -/
lemma judge_lax :
    (judge ws false).isValid = true ∧ (judge ws false).report number = [validLine number ws] ∧
      (judge ws false).notes = [] := by
  rw [judge_unsupported h]
  exact ⟨rfl, rfl, rfl⟩

/-- or its shape is all that is reported. -/
lemma judge_strict :
    (judge ws true).isValid = false ∧ (judge ws true).report number = [shapeLine number ws] ∧
      (judge ws true).notes = [shapeNote ws.length] := by
  have hone : ws.length ≠ 1 := by omega
  rw [judge_unsupported h, shapeLine_eq]
  refine ⟨rfl, rfl, ?_⟩
  simp [Verdict.notes, note_shapeViolation _ hone]

end

lemma Block.tightened_ofWords (o : CheckOptions) (number : Nat) (ws : List Text) :
    Block.Tightened o number (ws.take o.maxTokens.toNat)
      (.ofWords { o with rejectUnsupported := false } number ws)
      (.ofWords { o with rejectUnsupported := true } number ws) := by
  rw [Block.ofWords_eq, Block.ofWords_eq]
  by_cases h : 1 ≤ (ws.take o.maxTokens.toNat).length ∧ (ws.take o.maxTokens.toNat).length ≤ 4
  · simp only [judge_supported h false true]
    exact .supported h _
  · have hunsupported :
        (ws.take o.maxTokens.toNat).length = 0 ∨ 5 ≤ (ws.take o.maxTokens.toNat).length := by
      omega
    obtain ⟨hvalid, hline, hnone⟩ := judge_lax hunsupported number
    obtain ⟨hinvalid, hshape, hnote⟩ := judge_strict hunsupported number
    simp only [hvalid, hline, hnone, hinvalid, hshape, hnote, List.map_nil, ite_self,
      List.append_nil]
    exact .unsupported hunsupported _ _ (by simp only [decide_eq_true_eq])

/-! ### All lines -/

variable {ε : Type} {o : CheckOptions}

/-- An invalid block stays invalid, and counts for no line without rules. -/
lemma Block.Tightened.countP_invalid {number : Nat} {ws : List Text} {b b' : Block}
    (h : Block.Tightened o number ws b b') :
    [b'].countP (!·.isValid) =
      [b].countP (!·.isValid) + if ws.length = 0 ∨ 5 ≤ ws.length then 1 else 0 := by
  cases h with
  | supported h b =>
    have hsupported : ¬(ws.length = 0 ∨ 5 ≤ ws.length) := by omega
    rw [if_neg hsupported, Nat.add_zero]
  | unsupported h _ _ _ =>
    rw [if_pos h]
    rfl

lemma Block.Tightened.isValid_eq_false {number : Nat} {ws : List Text} {b b' : Block}
    (h : Block.Tightened o number ws b b') (hb : b.isValid = false) : b'.isValid = false := by
  cases h with
  | supported _ _ => exact hb
  | unsupported _ _ _ _ => rfl

/-- Without and with unsupported shapes being held against statements. -/
lemma countP_invalid_lineBlocks (o : CheckOptions) (number : Nat) (lines : List Text) :
    (lineBlocks { o with rejectUnsupported := true } number lines).countP (!·.isValid) =
      (lineBlocks { o with rejectUnsupported := false } number lines).countP (!·.isValid) +
        lines.countP fun line => IsUnsupported o.maxTokens line := by
  induction lines generalizing number with
  | nil => rfl
  | cons line lines ih =>
    have hblock : [Block.ofWords { o with rejectUnsupported := true } number (words line)].countP
        (!·.isValid) =
          [Block.ofWords { o with rejectUnsupported := false } number (words line)].countP
            (!·.isValid) + if IsUnsupported o.maxTokens line then 1 else 0 :=
      (Block.tightened_ofWords o number (words line)).countP_invalid
    simp only [lineBlocks_cons, List.countP_cons, List.countP_nil, decide_eq_true_eq,
      ih (number + 1)] at hblock ⊢
    omega

lemma isErrorBlock_of_getElem? {lines : List Text} {i : Nat} {b : Block}
    (hb : (lineBlocks o 1 lines)[i]? = some b) : isErrorBlock (i + 1) b.report = !b.isValid := by
  rw [getElem?_lineBlocks, Nat.add_comm 1 i] at hb
  obtain ⟨line, -, rfl⟩ := Option.map_eq_some_iff.mp hb
  exact isErrorBlock_ofWords o (i + 1) (words line)

lemma exists_tightened {lines : List Text} {i : Nat} {line : Text} (hline : lines[i]? = some line) :
    ∃ b b', (lineBlocks { o with rejectUnsupported := false } 1 lines)[i]? = some b ∧
      (lineBlocks { o with rejectUnsupported := true } 1 lines)[i]? = some b' ∧
      Block.Tightened o (i + 1) (keptWords o.maxTokens line) b b' := by
  rw [getElem?_lineBlocks, getElem?_lineBlocks, hline, Nat.add_comm 1 i]
  exact ⟨_, _, rfl, rfl, Block.tightened_ofWords o (i + 1) (words line)⟩

/-- No block of the first run that is invalid is valid in the second. -/
lemma isValid_eq_false_of_getElem? {lines : List Text} {i : Nat} {b b' : Block}
    (hb : (lineBlocks { o with rejectUnsupported := false } 1 lines)[i]? = some b)
    (hb' : (lineBlocks { o with rejectUnsupported := true } 1 lines)[i]? = some b')
    (hinvalid : b.isValid = false) : b'.isValid = false := by
  have hi : i < lines.length := by
    rw [← length_lineBlocks { o with rejectUnsupported := false } 1 lines]
    exact (List.getElem?_eq_some_iff.mp hb).1
  obtain ⟨c, c', hc, hc', htightened⟩ := exists_tightened (o := o) (List.getElem?_eq_getElem hi)
  obtain rfl := Option.some.inj (hb.symm.trans hc)
  obtain rfl := Option.some.inj (hb'.symm.trans hc')
  exact htightened.isValid_eq_false hinvalid

/-! ### Runs -/

/-- A run that holds unsupported shapes against statements, beside one that does not. -/
structure Run.Tightened (o : CheckOptions) (lines : List Text) (lax strict : Run ε) : Prop where
  finished : lax.ending = .finished ∧ strict.ending = .finished
  /-- Each channel is cut at its line feeds into what the blocks hold, -/
  out : lax.out.splitOn '\n' = lax.blocks.flatMap Block.report ++ [[]] ∧
    strict.out.splitOn '\n' = strict.blocks.flatMap Block.report ++ [[]]
  err : lax.err.splitOn '\n' = lax.blocks.flatMap Block.diagnostics ++ [[]] ∧
    strict.err.splitOn '\n' = strict.blocks.flatMap Block.diagnostics ++ [[]]
  /-- and there is a block for each line in either run, -/
  length : lax.blocks.length = lines.length ∧ strict.blocks.length = lines.length
  /-- which is the same in both if the line keeps one to four words. -/
  block : ∀ i line, lines[i]? = some line → ∃ b b', lax.blocks[i]? = some b ∧
    strict.blocks[i]? = some b' ∧
    Block.Tightened o (i + 1) (keptWords o.maxTokens line) b b'
  /-- A block is invalid just where its lines are those of a report on an error. -/
  told : ∀ (i : Nat) (b : Block), lax.blocks[i]? = some b ∨ strict.blocks[i]? = some b →
    isErrorBlock (i + 1) b.report = !b.isValid
  total : lax.summary.lines = strict.summary.lines
  truncated : lax.summary.truncated = strict.summary.truncated
  warnings : warnings lax.err = warnings strict.err
  /-- No invalid line becomes valid, -/
  subset : ∀ (i : Nat) (b b' : Block), lax.blocks[i]? = some b → strict.blocks[i]? = some b' →
    b.isValid = false → b'.isValid = false
  /-- and just the lines without rules become invalid. -/
  invalid : strict.summary.invalid =
    lax.summary.invalid + lines.countP fun line => IsUnsupported o.maxTokens line

/-- To hold unsupported shapes against statements turns the blocks of the lines that keep no word or
more than four, and changes nothing else. -/
theorem Feed.check_tightened (ho : 1 ≤ o.maxTokens) {lines : List Text}
    (h : ∀ line ∈ lines, Unbroken line) :
    Run.Tightened o lines
      (Feed.check { o with rejectUnsupported := false } (⟨lines, none⟩ : Feed ε))
      (Feed.check { o with rejectUnsupported := true } ⟨lines, none⟩) := by
  rw [Feed.check_unbroken (o := { o with rejectUnsupported := false }) ho h,
    Feed.check_unbroken (o := { o with rejectUnsupported := true }) ho h]
  have hlax := inBlocks_lineBlocks (ε := ε) (o := { o with rejectUnsupported := false }) ho h
  have hstrict := inBlocks_lineBlocks (ε := ε) (o := { o with rejectUnsupported := true }) ho h
  have hwarnings := hlax.warned.trans hstrict.warned.symm
  constructor
  case finished => exact ⟨rfl, rfl⟩
  case out => exact ⟨(splitOn_lineBlocks _ h .finished).1, (splitOn_lineBlocks _ h .finished).1⟩
  case err => exact ⟨(splitOn_lineBlocks _ h .finished).2, (splitOn_lineBlocks _ h .finished).2⟩
  case length => exact ⟨length_lineBlocks .., length_lineBlocks ..⟩
  case block => exact fun i line => exists_tightened
  case told => exact fun i b hb => hb.elim isErrorBlock_of_getElem? isErrorBlock_of_getElem?
  case total => exact (length_lineBlocks ..).trans (length_lineBlocks ..).symm
  case truncated => exact hlax.truncated.trans (hwarnings ▸ hstrict.truncated.symm)
  case warnings => exact hwarnings
  case subset => exact fun i b b' => isValid_eq_false_of_getElem?
  case invalid => exact countP_invalid_lineBlocks o 1 lines

/-- A blank line, one whose sixth word is dropped, and one that is invalid in any case. -/
theorem Feed.check_tightened_blank :
    let o : CheckOptions := ⟨5, false, true⟩
    let lines : List Text := [" \t", "A B C D E F", "DC ADD", "STOP"]
    let lax : Run SystemError := Feed.check { o with rejectUnsupported := false } ⟨lines, none⟩
    let strict : Run SystemError := Feed.check { o with rejectUnsupported := true } ⟨lines, none⟩
    1 ≤ o.maxTokens ∧ (∀ line ∈ lines, Unbroken line) ∧ Run.Tightened o lines lax strict ∧
      strict.summary.invalid = lax.summary.invalid + 2 :=
  ⟨by decide, by decide, Feed.check_tightened (by decide) (by decide),
    (Feed.check_tightened (by decide) (by decide)).invalid⟩

end AsmLint
