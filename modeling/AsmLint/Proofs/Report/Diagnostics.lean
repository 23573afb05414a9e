import AsmLint.Proofs.Report.Reading

/-!
# Diagnostics beside a report

Notes go to the error channel and leave the report alone. A line of that channel is a warning or a
note, told apart by what it starts with, so the notes can be taken out again. There is one for each
line of the report on an error, in the same order and with the same number.
-/

namespace AsmLint

/-! ### Lines that start alike -/

def noteLead : Text := "  note (Line "

/-- The lines of a text that start with the given one. -/
def linesWith (lead text : Text) : List Text := (text.splitOn '\n').filter lead.isPrefixOf

def withoutLines (lead text : Text) : Text :=
  joinWith ['\n'] ((text.splitOn '\n').filter (!lead.isPrefixOf ·))

/-- The number that stands behind what a line starts with. -/
def numberBehind? (lead line : Text) : Option Nat := (readNumber? lead "): " line).map Prod.fst

lemma noteLead_noteLine (number : Nat) (note : Text) :
    noteLead.isPrefixOf (noteLine number note) = true := rfl

lemma not_noteLead_truncationWarning (number : Nat) (maxTokens : Int) :
    noteLead.isPrefixOf (truncationWarning number maxTokens) = false := rfl

lemma numberBehind?_of_prefix {lead line : Text} {number : Nat}
    (h : lead ++ decimal number ++ ("): " : Text) <+: line) :
    numberBehind? lead line = some number := by
  obtain ⟨rest, rfl⟩ := h
  have hstop : ("): " : Text) = ')' :: [':', ' '] := rfl
  unfold numberBehind?
  rw [hstop, readNumber?_append lead number (by decide) [':', ' '] rest, Option.map_some]

lemma numberBehind?_noteLine (number : Nat) (note : Text) :
    numberBehind? noteLead (noteLine number note) = some number :=
  numberBehind?_of_prefix (List.prefix_append _ _)

lemma numberBehind?_errorLine (number : Nat) (message token : Text) :
    numberBehind? errorLead (errorLine number message token) = some number := by
  have hstart : errorLead ++ decimal number ++ ("): " : Text) = errorStart number := rfl
  apply numberBehind?_of_prefix
  rw [hstart, errorLine_natCast]
  exact List.prefix_append _ _

lemma numberBehind?_truncationWarning (number : Nat) (maxTokens : Int) :
    numberBehind? warningStart (truncationWarning number maxTokens) = some number := by
  have hmore : ("): more than " : Text) = ("): " : Text) ++ ("more than " : Text) := rfl
  apply numberBehind?_of_prefix
  unfold truncationWarning warningStart
  rw [hmore]
  simp only [List.append_assoc, List.prefix_append_right_inj]
  exact List.prefix_append _ _

lemma linesWith_unlines {lead : Text} (hlead : lead ≠ []) {ls : List Text}
    (h : ∀ l ∈ ls, '\n' ∉ l) : linesWith lead (unlines ls) = ls.filter lead.isPrefixOf := by
  rw [linesWith, splitOn_unlines h, List.filter_append]
  cases lead with
  | nil => contradiction
  | cons c lead => exact List.append_nil _

lemma withoutLines_unlines {lead : Text} (hlead : lead ≠ []) {ls : List Text}
    (h : ∀ l ∈ ls, '\n' ∉ l) :
    withoutLines lead (unlines ls) = unlines (ls.filter (!lead.isPrefixOf ·)) := by
  have hkept : ∀ l ∈ ls.filter (!lead.isPrefixOf ·), '\n' ∉ l :=
    fun l hl => h l (List.mem_of_mem_filter hl)
  have hlast : [([] : Text)].filter (!lead.isPrefixOf ·) = [[]] := by
    cases lead with
    | nil => contradiction
    | cons c lead => rfl
  rw [withoutLines, splitOn_unlines h, List.filter_append, hlast, ← splitOn_unlines hkept]
  exact List.intercalate_splitOn '\n'

/-! ### One block -/

variable {o : CheckOptions}

lemma diagnostics_ofWords (o : CheckOptions) (number : Nat) (ws : List Text) :
    (Block.ofWords o number ws).diagnostics =
      (if o.maxTokens.toNat < ws.length then [truncationWarning number o.maxTokens] else []) ++
        (if o.explain then (Judgement.ofWords o ws).verdict.notes.map (noteLine number)
          else []) := by
  simp [Block.ofWords, Block.ofJudgement, Judgement.ofWords, Statement.ofWords]

lemma filter_noteLead_diagnostics (o : CheckOptions) (number : Nat) (ws : List Text) :
    (Block.ofWords o number ws).diagnostics.filter noteLead.isPrefixOf =
      if o.explain then (Judgement.ofWords o ws).verdict.notes.map (noteLine number) else [] := by
  rw [diagnostics_ofWords, List.filter_append]
  split_ifs <;>
    simp [not_noteLead_truncationWarning, List.filter_map, Function.comp_def, noteLead_noteLine]

/-- Without its notes a block tells what it tells where nothing is explained. -/
lemma filter_not_noteLead_diagnostics (o : CheckOptions) (number : Nat) (ws : List Text) :
    (Block.ofWords o number ws).diagnostics.filter (!noteLead.isPrefixOf ·) =
      (Block.ofWords { o with explain := false } number ws).diagnostics := by
  rw [diagnostics_ofWords, diagnostics_ofWords, List.filter_append]
  split_ifs <;>
    simp_all [not_noteLead_truncationWarning, List.filter_map, Function.comp_def, noteLead_noteLine]

lemma filter_errorLead_report (v : Verdict) (number : Nat) :
    (v.report number).filter errorLead.isPrefixOf =
      v.violations.map fun x => errorLine number x.message x.token := by
  have herror (message token : Text) :
      errorLead.isPrefixOf (errorLine number message token) = true :=
    List.isPrefixOf_iff_prefix.mpr (errorLead_errorLine number message token)
  rw [Verdict.report]
  split_ifs with hv
  · have hnone : v.violations = [] := by simpa [Verdict.isValid] using hv
    rw [hnone]
    rfl
  · simp [List.filter_map, Function.comp_def, herror]

/-- Whether a note and a line of the report on an error have the same number. -/
def SameNumber (note error : Text) : Prop :=
  ∃ number, numberBehind? noteLead note = some number ∧ numberBehind? errorLead error = some number

/-- Where violations are explained a block has one note for each line of its report on an error. -/
lemma forall₂_sameNumber_block (o : CheckOptions) (number : Nat) (ws : List Text) :
    let b := Block.ofWords { o with explain := true } number ws
    List.Forall₂ SameNumber (b.diagnostics.filter noteLead.isPrefixOf)
      (b.report.filter errorLead.isPrefixOf) := by
  intro b
  have hreport : b.report.filter errorLead.isPrefixOf =
      (Judgement.ofWords o ws).verdict.violations.map fun x =>
        errorLine number x.message x.token := filter_errorLead_report _ number
  rw [hreport, filter_noteLead_diagnostics, if_pos rfl, Verdict.notes, List.map_map,
    List.forall₂_map_left_iff, List.forall₂_map_right_iff]
  apply List.forall₂_same.mpr
  intro x _
  exact ⟨number, numberBehind?_noteLine number _, numberBehind?_errorLine number x.message x.token⟩

/-- Whether the second of two lines of the error channel warns of a later line than the first, if
the first is a note and the second a warning. -/
def WarnsLater (l m : Text) : Prop :=
  ∀ i j, numberBehind? noteLead l = some i → numberBehind? warningStart m = some j → i < j

lemma numberBehind?_warningStart_noteLine (number : Nat) (note : Text) :
    numberBehind? warningStart (noteLine number note) = none := rfl

lemma numberBehind?_noteLead_truncationWarning (number : Nat) (maxTokens : Int) :
    numberBehind? noteLead (truncationWarning number maxTokens) = none := rfl

/-- The warnings and the notes of a block have its number. -/
lemma number_of_mem_diagnostics {number : Nat} {ws : List Text} {l : Text}
    (h : l ∈ (Block.ofWords o number ws).diagnostics) :
    (∀ i, numberBehind? noteLead l = some i → i = number) ∧
      ∀ j, numberBehind? warningStart l = some j → j = number := by
  rw [diagnostics_ofWords, List.mem_append] at h
  rcases h with h | h <;> split_ifs at h
  · rw [List.mem_singleton.mp h]
    simp [numberBehind?_noteLead_truncationWarning, numberBehind?_truncationWarning, eq_comm]
  · simp at h
  · obtain ⟨note, -, rfl⟩ := List.mem_map.mp h
    simp [numberBehind?_warningStart_noteLine, numberBehind?_noteLine, eq_comm]
  · simp at h

/-- In a block the warning comes first. -/
lemma pairwise_diagnostics (o : CheckOptions) (number : Nat) (ws : List Text) :
    (Block.ofWords o number ws).diagnostics.Pairwise WarnsLater := by
  have hwarning (m : Text) : WarnsLater (truncationWarning number o.maxTokens) m := by
    intro i j hi
    simp [numberBehind?_noteLead_truncationWarning] at hi
  have hnote (l note : Text) : WarnsLater l (noteLine number note) := by
    intro i j _ hj
    simp [numberBehind?_warningStart_noteLine] at hj
  rw [diagnostics_ofWords, List.pairwise_append]
  refine ⟨?_, ?_, ?_⟩
  · split_ifs <;> simp
  · split_ifs
    · rw [List.pairwise_map]
      exact List.pairwise_of_forall fun _ _ => hnote _ _
    · simp
  · intro l hl m _
    split_ifs at hl
    · rw [List.mem_singleton.mp hl]
      exact hwarning m
    · simp at hl

/-! ### All blocks -/

lemma flatMap_lineBlocks {β : Type} (f : Block → List β) (o : CheckOptions) (number : Nat)
    (lines : List Text) :
    (lineBlocks o number lines).flatMap f =
      (lines.zipIdx number).flatMap fun x => f (.ofWords o x.2 (words x.1)) := by
  rw [lineBlocks, List.flatMap_map]

lemma filter_not_noteLead_lineBlocks (o : CheckOptions) (number : Nat) (lines : List Text) :
    ((lineBlocks o number lines).flatMap Block.diagnostics).filter (!noteLead.isPrefixOf ·) =
      (lineBlocks { o with explain := false } number lines).flatMap Block.diagnostics := by
  simp only [flatMap_lineBlocks, List.filter_flatMap, filter_not_noteLead_diagnostics]

lemma forall₂_sameNumber_lineBlocks (o : CheckOptions) (number : Nat) (lines : List Text) :
    let blocks := lineBlocks { o with explain := true } number lines
    List.Forall₂ SameNumber ((blocks.flatMap Block.diagnostics).filter noteLead.isPrefixOf)
      ((blocks.flatMap Block.report).filter errorLead.isPrefixOf) := by
  induction lines generalizing number with
  | nil => exact .nil
  | cons line lines ih =>
    simp only [lineBlocks_cons, List.flatMap_cons, List.filter_append]
    exact List.rel_append (forall₂_sameNumber_block o number (words line)) (ih (number + 1))

lemma pairwise_lineBlocks (o : CheckOptions) (number : Nat) (lines : List Text) :
    ((lineBlocks o number lines).flatMap Block.diagnostics).Pairwise WarnsLater := by
  rw [flatMap_lineBlocks, List.pairwise_flatMap]
  refine ⟨fun x _ => pairwise_diagnostics o x.2 (words x.1), (pairwise_zipIdx _ _).imp ?_⟩
  intro x y hlt l hl m hm i j hi hj
  rw [(number_of_mem_diagnostics hl).1 i hi, (number_of_mem_diagnostics hm).2 j hj]
  exact hlt

/-! ### Runs -/

/-- A run that explains its violations beside one that does not. -/
structure Run.Explains {ε : Type} (loud quiet : Run ε) : Prop where
  finished : loud.ending = .finished ∧ quiet.ending = .finished
  out : loud.out = quiet.out
  summary : loud.summary = quiet.summary
  /-- The notes are all that is added to the error channel. -/
  err : withoutLines noteLead loud.err = quiet.err
  /-- There is one note for each line of the report on an error, in the same order. -/
  paired : List.Forall₂ SameNumber (linesWith noteLead loud.err) (linesWith errorLead loud.out)
  /-- No note stands in front of a warning of the same line or of an earlier one. -/
  ordered : (loud.err.splitOn '\n').Pairwise WarnsLater

/-- Notes leave the report, the totals and the warnings alone, and follow the errors one by one. -/
theorem Feed.check_explained {ε : Type} (ho : 1 ≤ o.maxTokens) {lines : List Text}
    (h : ∀ line ∈ lines, Unbroken line) :
    Run.Explains (Feed.check { o with explain := true } (⟨lines, none⟩ : Feed ε))
      (Feed.check { o with explain := false } ⟨lines, none⟩) := by
  rw [Feed.check_unbroken (o := { o with explain := true }) ho h,
    Feed.check_unbroken (o := { o with explain := false }) ho h]
  obtain ⟨hout, herr⟩ := newline_notMem_lineBlocks { o with explain := true } 1 h
  constructor
  case finished => exact ⟨rfl, rfl⟩
  case out =>
    simp only [Run.out, flatMap_lineBlocks]
    rfl
  case summary =>
    simp only [Run.summary, lineBlocks, List.countP_map, List.length_map]
    rfl
  case err =>
    rw [Run.err, withoutLines_unlines (by decide) herr, filter_not_noteLead_lineBlocks]
    rfl
  case paired =>
    rw [Run.err, Run.out, linesWith_unlines (by decide) herr, linesWith_unlines (by decide) hout]
    exact forall₂_sameNumber_lineBlocks o 1 lines
  case ordered =>
    rw [Run.err, splitOn_unlines herr, List.pairwise_append]
    refine ⟨pairwise_lineBlocks _ 1 lines, List.pairwise_singleton _ _, ?_⟩
    intro l _ m hm i j _ hj
    -- behind the last line feed stands nothing
    rw [List.mem_singleton.mp hm] at hj
    cases hj

/-- Two violations behind a warning, and a word that looks like a note. -/
theorem Feed.check_explained_forged :
    let o : CheckOptions := ⟨2, true, false⟩
    let lines : List Text := ["ADD AREG X", "  note (Line 1): STOP", ""]
    1 ≤ o.maxTokens ∧ (∀ line ∈ lines, Unbroken line) ∧
      Run.Explains (Feed.check { o with explain := true } (⟨lines, none⟩ : Feed SystemError))
        (Feed.check { o with explain := false } ⟨lines, none⟩) :=
  ⟨by decide, by decide, Feed.check_explained (by decide) (by decide)⟩

end AsmLint
