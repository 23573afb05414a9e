import AsmLint.Proofs.Report.Diagnostics
import AsmLint.Proofs.Statement.Words

/-!
# Canonical lines

A line is judged by its first words alone. Written out with single spaces between them they make a
canonical line, of which no word is dropped, and a run over canonical lines tells what the run over
the lines themselves tells, without the warnings. So neither the blanks of a line nor the words that
are dropped matter to the report.
-/

namespace AsmLint

variable {ε : Type} {o : CheckOptions}

/-! ### One line -/

/-- The first words of a line with single spaces between them. -/
def canonical (limit : Int) (line : Text) : Text := joinWith [' '] ((words line).take limit.toNat)

lemma words_canonical (limit : Int) (line : Text) :
    words (canonical limit line) = (words line).take limit.toNat := by
  apply words_joinWith
  intro w hw
  obtain ⟨hne, hc⟩ := mem_words (List.mem_of_mem_take hw)
  exact ⟨hne, fun c h => (hc c h).1⟩

lemma unbroken_canonical (limit : Int) {line : Text} (h : Unbroken line) :
    Unbroken (canonical limit line) := by
  have hmem : ∀ c ∈ canonical limit line, c = ' ' ∨ c ∈ line := by
    intro c hc
    rcases mem_joinWith hc with hc | ⟨w, hw, hc⟩
    · exact .inl (List.mem_singleton.mp hc)
    · exact .inr ((mem_words (List.mem_of_mem_take hw)).2 c hc).2
  constructor
  · intro hc
    exact (hmem _ hc).elim (by decide) h.1
  · intro hc
    exact (hmem _ hc).elim (by decide) h.2

def Block.withoutWarning (b : Block) : Block :=
  { b with diagnostics := b.diagnostics.filter noteLead.isPrefixOf, isTruncated := false }

lemma Statement.ofWords_take (ws : List Text) (limit : Int) :
    Statement.ofWords (ws.take limit.toNat) limit =
      { Statement.ofWords ws limit with truncated := false } := by
  have hkept : ¬limit.toNat < (ws.take limit.toNat).length := by
    rw [List.length_take]
    omega
  rw [Statement.ofWords, List.take_take, Nat.min_self, decide_eq_false hkept]
  rfl

/-- The words that are kept make the block of all words, without its warning. -/
lemma Block.ofWords_take (o : CheckOptions) (number : Nat) (ws : List Text) :
    Block.ofWords o number (ws.take o.maxTokens.toNat) =
      (Block.ofWords o number ws).withoutWarning := by
  have hjudgement : Judgement.ofWords o (ws.take o.maxTokens.toNat) =
      ⟨{ Statement.ofWords ws o.maxTokens with truncated := false },
        (Judgement.ofWords o ws).verdict⟩ := by
    simp only [Judgement.ofWords, Statement.ofWords_take]
    rfl
  rw [Block.withoutWarning, filter_noteLead_diagnostics, Block.ofWords, hjudgement]
  rfl

lemma lineBlocks_canonical (o : CheckOptions) (number : Nat) (lines : List Text) :
    lineBlocks o number (lines.map (canonical o.maxTokens)) =
      (lineBlocks o number lines).map Block.withoutWarning := by
  induction lines generalizing number with
  | nil => rfl
  | cons line lines ih =>
    rw [List.map_cons, lineBlocks_cons, lineBlocks_cons, List.map_cons, words_canonical,
      Block.ofWords_take, ih (number + 1)]

/-! ### Runs -/

/-- Runs that tell the same of the same number of lines, if warnings are left out. -/
structure Run.SameReport (r s : Run ε) : Prop where
  ending : r.ending = s.ending
  out : r.out = s.out
  notes : linesWith noteLead r.err = linesWith noteLead s.err
  lines : r.summary.lines = s.summary.lines
  valid : r.summary.valid = s.summary.valid
  invalid : r.summary.invalid = s.summary.invalid

lemma Run.SameReport.symm {r s : Run ε} (h : r.SameReport s) : s.SameReport r :=
  ⟨h.ending.symm, h.out.symm, h.notes.symm, h.lines.symm, h.valid.symm, h.invalid.symm⟩

lemma Run.SameReport.trans {r s t : Run ε} (h : r.SameReport s) (h' : s.SameReport t) :
    r.SameReport t :=
  ⟨h.ending.trans h'.ending, h.out.trans h'.out, h.notes.trans h'.notes, h.lines.trans h'.lines,
    h.valid.trans h'.valid, h.invalid.trans h'.invalid⟩

lemma not_warningStart_of_noteLead {l : Text} (h : noteLead.isPrefixOf l = true) :
    warningStart.isPrefixOf l = false := by
  obtain ⟨rest, rfl⟩ := List.isPrefixOf_iff_prefix.mp h
  rfl

/-- A run over canonical lines tells what the run over the lines tells, and nothing else. -/
lemma check_map_canonical (ho : 1 ≤ o.maxTokens) {lines : List Text}
    (h : ∀ line ∈ lines, Unbroken line) :
    let r : Run ε := Feed.check o ⟨lines, none⟩
    let c : Run ε := Feed.check o ⟨lines.map (canonical o.maxTokens), none⟩
    c.SameReport r ∧ c.err = unlines (linesWith noteLead r.err) ∧ warnings c.err = [] ∧
      c.summary.truncated = 0 := by
  intro r c
  have hcanonical : ∀ line ∈ lines.map (canonical o.maxTokens), Unbroken line := by
    intro line hline
    obtain ⟨l, hl, rfl⟩ := List.mem_map.mp hline
    exact unbroken_canonical _ (h l hl)
  have hr : r = ⟨lineBlocks o 1 lines, .finished⟩ := Feed.check_unbroken ho h
  have hc : c = ⟨(lineBlocks o 1 lines).map Block.withoutWarning, .finished⟩ := by
    rw [← lineBlocks_canonical]
    exact Feed.check_unbroken ho hcanonical
  have hnewline := (newline_notMem_lineBlocks o 1 h).2
  have hnotes : linesWith noteLead r.err =
      ((lineBlocks o 1 lines).flatMap Block.diagnostics).filter noteLead.isPrefixOf := by
    rw [hr, Run.err, linesWith_unlines (by decide) hnewline]
  have herr : c.err = unlines (linesWith noteLead r.err) := by
    rw [hnotes, hc, Run.err, List.flatMap_map, List.filter_flatMap]
    rfl
  have hclean : ∀ l ∈ linesWith noteLead r.err, '\n' ∉ l := by
    rw [hnotes]
    exact fun l hl => hnewline l (List.mem_of_mem_filter hl)
  have hwarnings : warnings c.err = [] := by
    rw [herr]
    refine (linesWith_unlines (by decide) hclean).trans (List.filter_eq_nil_iff.mpr ?_)
    intro l hl
    simp [not_warningStart_of_noteLead (List.mem_filter.mp hl).2]
  refine ⟨⟨?_, ?_, ?_, ?_, ?_, ?_⟩, herr, hwarnings, ?_⟩
  · rw [hc, hr]
  · rw [hc, hr, Run.out, List.flatMap_map]
    rfl
  · rw [herr, linesWith_unlines (by decide) hclean, linesWith, List.filter_filter]
    simp
  · simp only [hc, hr, Run.summary, List.length_map]
  · simp only [hc, hr, Run.summary, List.countP_map]
    rfl
  · simp only [hc, hr, Run.summary, List.countP_map]
    rfl
  · simp [hc, Run.summary, List.countP_map, Function.comp_def, Block.withoutWarning]

/-- Whether the first words of two lines are the same. -/
def AgreeOnWords (limit : Int) (l m : Text) : Prop :=
  (words l).take limit.toNat = (words m).take limit.toNat

lemma map_canonical_eq {limit : Int} {lines lines' : List Text}
    (h : List.Forall₂ (AgreeOnWords limit) lines lines') :
    lines.map (canonical limit) = lines'.map (canonical limit) := by
  induction h with
  | nil => rfl
  | cons hline _ ih =>
    rw [List.map_cons, List.map_cons, ih, canonical, canonical, hline]

/-- The blanks of lines and the words that are dropped do not matter: a run over the canonical lines
reports the same and has no warning, and so do runs over all lines of the same first words. -/
theorem Feed.check_canonical (ho : 1 ≤ o.maxTokens) {lines : List Text}
    (h : ∀ line ∈ lines, Unbroken line) :
    let r : Run ε := Feed.check o ⟨lines, none⟩
    let c : Run ε := Feed.check o ⟨lines.map (canonical o.maxTokens), none⟩
    (∀ line ws, words line = ws ↔ HasWords line ws) ∧ r.ending = .finished ∧
      (c.SameReport r ∧ c.err = unlines (linesWith noteLead r.err) ∧ warnings c.err = [] ∧
        c.summary.truncated = 0) ∧
      ∀ lines', (∀ line ∈ lines', Unbroken line) →
        List.Forall₂ (AgreeOnWords o.maxTokens) lines lines' →
        (Feed.check o ⟨lines', none⟩ : Run ε).SameReport r := by
  intro r c
  have hr : r.ending = .finished := by
    rw [show r = _ from Feed.check_unbroken ho h]
    rfl
  refine ⟨fun line ws => hasWords_iff.symm, hr, check_map_canonical ho h, ?_⟩
  intro lines' h' hagree
  have hsame : c.SameReport r := (check_map_canonical ho h).1
  have hsame' : c.SameReport (Feed.check o ⟨lines', none⟩ : Run ε) := by
    simp only [c, map_canonical_eq hagree]
    exact (check_map_canonical ho h').1
  exact hsame'.symm.trans hsame

/-- A line of more words than are kept, a blank one, and one with tabs at both ends. -/
theorem Feed.check_canonical_blanks :
    let o : CheckOptions := ⟨2, true, true⟩
    let lines : List Text := ["  ADD\tAREG  X ", " \t ", "\tLOOP ADD\t"]
    let lines' : List Text := ["ADD AREG Y Z", "", "LOOP  ADD DS"]
    let r : Run SystemError := Feed.check o ⟨lines, none⟩
    let c : Run SystemError := Feed.check o ⟨["ADD AREG", "", "LOOP ADD"], none⟩
    1 ≤ o.maxTokens ∧ (∀ line ∈ lines, Unbroken line) ∧ (∀ line ∈ lines', Unbroken line) ∧
      List.Forall₂ (AgreeOnWords o.maxTokens) lines lines' ∧
      c.SameReport r ∧ c.summary.truncated = 0 ∧
      (Feed.check o ⟨lines', none⟩ : Run SystemError).SameReport r := by
  intro o lines lines' r c
  have h : ∀ line ∈ lines, Unbroken line := by decide
  have h' : ∀ line ∈ lines', Unbroken line := by decide
  have hagree : List.Forall₂ (AgreeOnWords o.maxTokens) lines lines' :=
    .cons rfl (.cons rfl (.cons rfl .nil))
  obtain ⟨-, -, ⟨hsame, -, -, htruncated⟩, hlines'⟩ :=
    Feed.check_canonical (ε := SystemError) (o := o) (by decide) h
  exact ⟨by decide, h, h', hagree, hsame, htruncated, hlines' lines' h' hagree⟩

end AsmLint
