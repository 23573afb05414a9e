import AsmLint.Proofs.Report.OneLine

/-!
# The blocks of a report

A report is cut at its line feeds into one block for each line that was checked, and each line of a
block begins with the number of the line it belongs to. The totals of a run are those of the blocks
and of the warnings.
-/

namespace AsmLint

/-! ### One block -/

def validStart (number : Nat) : Text := "[VALID] Line " ++ decimal number ++ ": "

/-- What each line of the report on an invalid line starts with. -/
def errorStart (number : Nat) : Text := "Error (Line " ++ decimal number ++ "): "

def warningStart : Text := "Warning (Line "

/-- Whether lines of a report are those of a valid line of the given number. -/
def isValidBlock (number : Nat) (block : List Text) : Bool :=
  block.length = 1 && block.all (validStart number).isPrefixOf

/-- Whether lines of a report are those of an invalid line of the given number. -/
def isErrorBlock (number : Nat) (block : List Text) : Bool :=
  1 ≤ block.length && block.length ≤ 4 && block.all (errorStart number).isPrefixOf

/-- The lines of the error channel that warn. -/
def warnings (err : Text) : List Text := (err.splitOn '\n').filter warningStart.isPrefixOf

lemma validLine_natCast (number : Nat) (ws : List Text) :
    validLine number ws = validStart number ++ ws.flatMap (· ++ [' ']) := by
  unfold validLine validStart
  rw [signedDecimal_natCast]

lemma errorLine_natCast (number : Nat) (message token : Text) :
    errorLine number message token = errorStart number ++ (message ++ " '" ++ token ++ "'") := by
  unfold errorLine errorStart
  simp only [signedDecimal_natCast, List.append_assoc]

lemma validStart_prefix (number : Nat) (ws : List Text) :
    (validStart number).isPrefixOf (validLine number ws) = true := by
  rw [List.isPrefixOf_iff_prefix, validLine_natCast]
  exact List.prefix_append _ _

lemma errorStart_prefix (number : Nat) (message token : Text) :
    (errorStart number).isPrefixOf (errorLine number message token) = true := by
  rw [List.isPrefixOf_iff_prefix, errorLine_natCast]
  exact List.prefix_append _ _

lemma errorStart_not_prefix (number : Nat) (ws : List Text) :
    (errorStart number).isPrefixOf (validLine number ws) = false := rfl

lemma validStart_not_prefix (number : Nat) (message token : Text) :
    (validStart number).isPrefixOf (errorLine number message token) = false := rfl

/-- What every line of a report on an error starts with. -/
def errorLead : Text := "Error (Line "

lemma errorLead_errorLine (number : Int) (message token : Text) :
    errorLead <+: errorLine number message token := by
  unfold errorLine errorLead
  simp only [List.append_assoc]
  exact List.prefix_append _ _

lemma not_errorLead_validLine (number : Int) (ws : List Text) :
    ¬errorLead <+: validLine number ws := by
  rw [← List.isPrefixOf_iff_prefix]
  exact Bool.false_ne_true

lemma isValidBlock_report (v : Verdict) (number : Nat) :
    isValidBlock number (v.report number) = v.isValid := by
  unfold Verdict.report
  cases hv : v.isValid with
  | true => simp [isValidBlock, validStart_prefix]
  | false =>
    have hne : v.violations ≠ [] := by simpa [Verdict.isValid] using hv
    obtain ⟨x, xs, hx⟩ := List.exists_cons_of_ne_nil hne
    simp [isValidBlock, validStart_not_prefix, hx]

lemma isErrorBlock_report {v : Verdict} (h : v.violations.length ≤ 4) (number : Nat) :
    isErrorBlock number (v.report number) = !v.isValid := by
  unfold Verdict.report
  cases hv : v.isValid with
  | true => simp [isErrorBlock, errorStart_not_prefix]
  | false =>
    have hne : v.violations ≠ [] := by simpa [Verdict.isValid] using hv
    have hpos := List.length_pos_iff.mpr hne
    simp [isErrorBlock, errorStart_prefix, h, Nat.one_le_iff_ne_zero, hne]

lemma isValidBlock_ofWords (o : CheckOptions) (number : Nat) (ws : List Text) :
    isValidBlock number (Block.ofWords o number ws).report = (Block.ofWords o number ws).isValid :=
  isValidBlock_report _ number

lemma isErrorBlock_ofWords (o : CheckOptions) (number : Nat) (ws : List Text) :
    isErrorBlock number (Block.ofWords o number ws).report =
      !(Block.ofWords o number ws).isValid :=
  isErrorBlock_report (length_violations_judge_le _ _) number

/-- A block warns just when words of its line were dropped, and it has no other warning. -/
lemma filter_diagnostics {o : CheckOptions} (ho : 1 ≤ o.maxTokens) (number : Nat)
    (ws : List Text) :
    (Block.ofWords o number ws).diagnostics.filter warningStart.isPrefixOf =
      if o.maxTokens < ws.length then [truncationWarning number o.maxTokens] else [] := by
  have hwarning : warningStart.isPrefixOf (truncationWarning number o.maxTokens) = true := rfl
  have hnote (note : Text) : warningStart.isPrefixOf (noteLine number note) = false := rfl
  have htruncated : o.maxTokens.toNat < ws.length ↔ o.maxTokens < ws.length := by omega
  have hnotes (notes : List Text) :
      (notes.map (noteLine number)).filter warningStart.isPrefixOf = [] := by
    simp [List.filter_map, Function.comp_def, hnote]
  simp only [Block.ofWords, Block.ofJudgement, Judgement.ofWords, Statement.ofWords,
    List.filter_append, decide_eq_true_eq, htruncated]
  split_ifs <;> simp [hwarning, hnotes]

/-! ### All blocks -/

/-- The reports on numbered lines, each with the number of its line. -/
lemma zipIdx_reports (o : CheckOptions) (number : Nat) (lines : List Text) :
    ((lineBlocks o number lines).map Block.report).zipIdx number =
      (lines.zipIdx number).map fun x => ((Block.ofWords o x.2 (words x.1)).report, x.2) := by
  rw [List.zipIdx_map, zipIdx_lineBlocks, List.map_map]
  rfl

/-- Each line has the block of its number. -/
lemma isBlock_of_mem {o : CheckOptions} {number : Nat} {lines : List Text} {x : List Text × Nat}
    (h : x ∈ ((lineBlocks o number lines).map Block.report).zipIdx number) :
    isValidBlock x.2 x.1 ∨ isErrorBlock x.2 x.1 := by
  rw [zipIdx_reports] at h
  obtain ⟨y, -, rfl⟩ := List.mem_map.mp h
  rw [isValidBlock_ofWords, isErrorBlock_ofWords]
  cases (Block.ofWords o y.2 (words y.1)).isValid <;> simp

lemma countP_reports {p : Nat → List Text → Bool} {q : Block → Bool} {o : CheckOptions}
    (h : ∀ number ws, p number (Block.ofWords o number ws).report = q (.ofWords o number ws))
    (number : Nat) (lines : List Text) :
    (((lineBlocks o number lines).map Block.report).zipIdx number).countP (fun x => p x.2 x.1) =
      (lineBlocks o number lines).countP q := by
  rw [zipIdx_reports, lineBlocks, List.countP_map, List.countP_map]
  apply List.countP_congr
  intro x _
  simp [h]

/-- There is one warning for each line of which words were dropped. -/
lemma filter_diagnostics_lineBlocks {o : CheckOptions} (ho : 1 ≤ o.maxTokens) (number : Nat)
    (lines : List Text) :
    ((lineBlocks o number lines).flatMap Block.diagnostics).filter warningStart.isPrefixOf =
      ((lines.zipIdx number).filter fun x => o.maxTokens < (words x.1).length).map
        fun x => truncationWarning x.2 o.maxTokens := by
  induction lines generalizing number with
  | nil => rfl
  | cons line lines ih =>
    rw [lineBlocks_cons, List.flatMap_cons, List.filter_append, filter_diagnostics ho, ih,
      List.zipIdx_cons]
    split_ifs with h <;> simp [h]

lemma countP_isTruncated {o : CheckOptions} (ho : 1 ≤ o.maxTokens) (number : Nat)
    (lines : List Text) :
    (lineBlocks o number lines).countP Block.isTruncated =
      (lines.zipIdx number).countP fun x => o.maxTokens < (words x.1).length := by
  rw [lineBlocks, List.countP_map]
  apply List.countP_congr
  intro x _
  have hlimit : o.maxTokens.toNat < (words x.1).length ↔ o.maxTokens < (words x.1).length := by
    omega
  simp [Block.ofWords, Block.ofJudgement, Judgement.ofWords, Statement.ofWords, hlimit]

/-- A finished run over lines whose report, cut at the line feeds alone, is made of the given
blocks: one for each line in their order, with the number of the line, and the totals of the run are
those of the blocks and of the warnings. -/
structure Run.InBlocks {ε : Type} (o : CheckOptions) (lines : List Text) (r : Run ε)
    (blocks : List (List Text)) : Prop where
  finished : r.ending = .finished
  cut : r.out.splitOn '\n' = blocks.flatten ++ [[]]
  length : blocks.length = lines.length
  numbered : ∀ x ∈ blocks.zipIdx 1, isValidBlock x.2 x.1 ∨ isErrorBlock x.2 x.1
  total : r.summary.lines = blocks.length
  valid : r.summary.valid = (blocks.zipIdx 1).countP fun x => isValidBlock x.2 x.1
  invalid : r.summary.invalid = (blocks.zipIdx 1).countP fun x => isErrorBlock x.2 x.1
  sum : r.summary.valid + r.summary.invalid = r.summary.lines
  truncated : r.summary.truncated = (warnings r.err).length
  warned : warnings r.err =
    ((lines.zipIdx 1).filter fun x => o.maxTokens < (words x.1).length).map
      fun x => truncationWarning x.2 o.maxTokens

lemma inBlocks_lineBlocks {ε : Type} {o : CheckOptions} (ho : 1 ≤ o.maxTokens)
    {lines : List Text} (h : ∀ line ∈ lines, Unbroken line) :
    Run.InBlocks o lines (⟨lineBlocks o 1 lines, .finished⟩ : Run ε)
      ((lineBlocks o 1 lines).map Block.report) := by
  obtain ⟨hout, herr⟩ := splitOn_lineBlocks o h (.finished : Ending ε)
  have hwarnings : warnings (⟨lineBlocks o 1 lines, .finished⟩ : Run ε).err =
      ((lines.zipIdx 1).filter fun x => o.maxTokens < (words x.1).length).map
        fun x => truncationWarning x.2 o.maxTokens := by
    rw [warnings, herr, List.filter_append, filter_diagnostics_lineBlocks ho]
    exact List.append_nil _
  constructor
  case finished => rfl
  case cut => rw [hout, List.flatMap]
  case length => simp [lineBlocks]
  case numbered => exact fun x hx => isBlock_of_mem hx
  case total => simp [Run.summary]
  case valid => exact (countP_reports (isValidBlock_ofWords o) 1 lines).symm
  case invalid => exact (countP_reports (isErrorBlock_ofWords o) 1 lines).symm
  case sum => exact Run.valid_add_invalid _
  case truncated =>
    rw [hwarnings, List.length_map, ← List.countP_eq_length_filter, ← countP_isTruncated ho]
    rfl
  case warned => exact hwarnings

/-- A run over unbroken lines reports in blocks, whatever stands in the lines. -/
theorem Feed.report_in_blocks {ε : Type} {o : CheckOptions} (ho : 1 ≤ o.maxTokens)
    {lines : List Text} (h : ∀ line ∈ lines, Unbroken line) :
    ∃ blocks, (Feed.check o (⟨lines, none⟩ : Feed ε)).InBlocks o lines blocks := by
  rw [Feed.check_unbroken ho h]
  exact ⟨_, inBlocks_lineBlocks ho h⟩

/-- A line of more words than are checked, a word that looks like a report, and one with quotes. -/
theorem Feed.report_in_blocks_forged :
    let o : CheckOptions := ⟨4, true, true⟩
    let lines : List Text := ["Error\t(Line 2):  Invalid\x0b 'x'", "STOP", "MOVER 'MOVER'"]
    1 ≤ o.maxTokens ∧ (∀ line ∈ lines, Unbroken line) ∧
      ∃ blocks, (Feed.check o (⟨lines, none⟩ : Feed SystemError)).InBlocks o lines blocks :=
  ⟨by decide, by decide, Feed.report_in_blocks (by decide) (by decide)⟩

end AsmLint
