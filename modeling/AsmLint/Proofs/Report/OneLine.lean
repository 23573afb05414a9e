import AsmLint.Proofs.Report.Characters

/-!
# Lines that are written

No word holds a line feed, and nothing that is written about a word adds one. So the lines of the
two channels are those that the blocks of a run mean to write.
-/

namespace AsmLint

/-- The block of words without line feeds is made of lines without line feeds. -/
theorem newline_notMem_block {ws : List Text} (h : ∀ w ∈ ws, '\n' ∉ w) (o : CheckOptions)
    (number : Nat) :
    (∀ l ∈ (Block.ofWords o number ws).report, '\n' ∉ l) ∧
      ∀ l ∈ (Block.ofWords o number ws).diagnostics, '\n' ∉ l := by
  have hplain : isPlain '\n' = false := by decide
  obtain ⟨hreport, hdiagnostics⟩ := madeOf_block o number ws
  constructor <;> intro l hl
  · exact (hreport l hl).notMem hplain h
  · exact (hdiagnostics l hl).notMem hplain h

/-! ### Runs -/

lemma newline_notMem_lineBlocks (o : CheckOptions) (number : Nat) {lines : List Text}
    (h : ∀ line ∈ lines, Unbroken line) :
    (∀ l ∈ (lineBlocks o number lines).flatMap Block.report, '\n' ∉ l) ∧
      ∀ l ∈ (lineBlocks o number lines).flatMap Block.diagnostics, '\n' ∉ l := by
  have hblock : ∀ b ∈ lineBlocks o number lines,
      (∀ l ∈ b.report, '\n' ∉ l) ∧ ∀ l ∈ b.diagnostics, '\n' ∉ l := by
    intro b hb
    obtain ⟨x, hx, rfl⟩ := List.mem_map.mp hb
    have hline := h x.1 (List.fst_mem_of_mem_zipIdx hx)
    exact newline_notMem_block (fun w hw => newline_notMem_words hline hw) o x.2
  constructor <;> intro l hl <;> obtain ⟨b, hb, hl⟩ := List.mem_flatMap.mp hl
  · exact (hblock b hb).1 l hl
  · exact (hblock b hb).2 l hl

/-- The blocks of unbroken lines, read back from the two channels at the line feeds alone. -/
lemma splitOn_lineBlocks {ε : Type} (o : CheckOptions) {lines : List Text}
    (h : ∀ line ∈ lines, Unbroken line) (ending : Ending ε) :
    let r : Run ε := ⟨lineBlocks o 1 lines, ending⟩
    r.out.splitOn '\n' = r.blocks.flatMap Block.report ++ [[]] ∧
      r.err.splitOn '\n' = r.blocks.flatMap Block.diagnostics ++ [[]] := by
  obtain ⟨hout, herr⟩ := newline_notMem_lineBlocks o 1 h
  exact ⟨splitOn_unlines hout, splitOn_unlines herr⟩

end AsmLint
