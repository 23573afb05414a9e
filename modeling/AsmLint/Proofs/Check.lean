import AsmLint.Proofs.Statement

/-!
# Runs over unbroken lines

Unbroken lines are never refused: each has its block, which is a function of the number of the line,
of its words and of the options.
-/

namespace AsmLint

def Judgement.ofWords (o : CheckOptions) (ws : List Text) : Judgement :=
  let s := Statement.ofWords ws o.maxTokens
  ⟨s, judge s.words o.rejectUnsupported⟩

lemma Judgement.verdict_ofWords (o : CheckOptions) (ws : List Text) :
    (Judgement.ofWords o ws).verdict = judge (ws.take o.maxTokens.toNat) o.rejectUnsupported := by
  rw [Judgement.ofWords, Statement.words_ofWords]

theorem judgeLine_unbroken {o : CheckOptions} (ho : 1 ≤ o.maxTokens) {line : Text}
    (h : Unbroken line) : judgeLine o line = .ok (.ofWords o (words line)) := by
  rw [judgeLine, Statement.ofLine_unbroken h ho]
  rfl

def Block.ofWords (o : CheckOptions) (number : Nat) (ws : List Text) : Block :=
  .ofJudgement o number (.ofWords o ws)

/-- A block is made of the verdict on the words that are kept. -/
lemma Block.ofWords_eq (o : CheckOptions) (number : Nat) (ws : List Text) :
    Block.ofWords o number ws =
      let v := judge (ws.take o.maxTokens.toNat) o.rejectUnsupported
      ⟨v.report number,
        (if o.maxTokens.toNat < ws.length then [truncationWarning number o.maxTokens] else []) ++
          (if o.explain then v.notes.map (noteLine number) else []),
        v.isValid, o.maxTokens.toNat < ws.length⟩ := by
  simp [Block.ofWords, Block.ofJudgement, Judgement.ofWords, Statement.ofWords, Statement.words]

theorem Block.ofLine_unbroken {o : CheckOptions} (ho : 1 ≤ o.maxTokens) (number : Nat) {line : Text}
    (h : Unbroken line) : Block.ofLine o number line = .ok (.ofWords o number (words line)) := by
  rw [Block.ofLine, judgeLine_unbroken ho h]
  rfl

/-- The blocks of lines that are numbered from `number`. -/
def lineBlocks (o : CheckOptions) (number : Nat) (lines : List Text) : List Block :=
  (lines.zipIdx number).map fun x => .ofWords o x.2 (words x.1)

@[simp] lemma lineBlocks_cons (o : CheckOptions) (number : Nat) (line : Text) (lines : List Text) :
    lineBlocks o number (line :: lines) =
      .ofWords o number (words line) :: lineBlocks o (number + 1) lines := by
  simp [lineBlocks]

lemma length_lineBlocks (o : CheckOptions) (number : Nat) (lines : List Text) :
    (lineBlocks o number lines).length = lines.length := by
  simp [lineBlocks]

lemma getElem?_lineBlocks (o : CheckOptions) (number : Nat) (lines : List Text) (i : Nat) :
    (lineBlocks o number lines)[i]? =
      lines[i]?.map fun line => .ofWords o (number + i) (words line) := by
  simp [lineBlocks, List.getElem?_zipIdx, Function.comp_def]

/-- A block of lines that are numbered has the number of its line. -/
lemma zipIdx_lineBlocks (o : CheckOptions) (number : Nat) (lines : List Text) :
    (lineBlocks o number lines).zipIdx number =
      (lines.zipIdx number).map fun x => (.ofWords o x.2 (words x.1), x.2) := by
  induction lines generalizing number with
  | nil => rfl
  | cons line lines ih =>
    rw [lineBlocks_cons, List.zipIdx_cons, List.zipIdx_cons, ih (number + 1), List.map_cons]

theorem blocksFrom_unbroken {o : CheckOptions} (ho : 1 ≤ o.maxTokens) (number : Nat)
    {lines : List Text} (h : ∀ line ∈ lines, Unbroken line) :
    blocksFrom o number lines = (lineBlocks o number lines, none) := by
  induction lines generalizing number with
  | nil => rfl
  | cons line lines ih =>
    have hlines := ih (number + 1) fun l hl => h l (List.mem_cons_of_mem _ hl)
    simp only [blocksFrom, Block.ofLine_unbroken ho number (h line List.mem_cons_self), hlines,
      lineBlocks_cons]

/-- A run over unbroken lines has a block for each, and ends with the feed. -/
theorem Feed.check_unbroken {ε : Type} {o : CheckOptions} (ho : 1 ≤ o.maxTokens) {f : Feed ε}
    (h : ∀ line ∈ f.lines, Unbroken line) :
    f.check o = ⟨lineBlocks o 1 f.lines, f.failure.elim .finished .failed⟩ := by
  rw [Feed.check, blocksFrom_unbroken ho 1 h]
  cases f.failure <;> rfl

end AsmLint
