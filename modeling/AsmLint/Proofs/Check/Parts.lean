import AsmLint.Proofs.Check
import Mathlib.Data.List.Forall2

/-!
# Runs over parts of the lines

What is written about a line is made of the number of the line, the line itself and the options. So
a run over some lines and then others writes what the run over the first ones writes, and then the
blocks of the others, numbered on. A run that breaks off has written what the run over the lines
before the break writes, whether a line is refused there or the lines stop coming.
-/

namespace AsmLint

variable {ε : Type} {o : CheckOptions}

/-! ### Numbered on -/

/-- Unbroken lines in front of others add their blocks, and shift the numbers of the others. -/
lemma blocksFrom_append (ho : 1 ≤ o.maxTokens) (number : Nat) {xs : List Text}
    (hxs : ∀ line ∈ xs, Unbroken line) (rest : List Text) :
    blocksFrom o number (xs ++ rest) =
      (lineBlocks o number xs ++ (blocksFrom o (number + xs.length) rest).1,
        (blocksFrom o (number + xs.length) rest).2) := by
  induction xs generalizing number with
  | nil => rfl
  | cons x xs ih =>
    obtain ⟨hx, hxs⟩ := List.forall_mem_cons.mp hxs
    have hnumber : number + 1 + xs.length = number + (x :: xs).length := by
      rw [List.length_cons]
      omega
    rw [List.cons_append, blocksFrom, Block.ofLine_unbroken ho number hx, ih (number + 1) hxs,
      lineBlocks_cons, hnumber]
    rfl

lemma lineBlocks_append (o : CheckOptions) (number : Nat) (xs ys : List Text) :
    lineBlocks o number (xs ++ ys) =
      lineBlocks o number xs ++ lineBlocks o (number + xs.length) ys := by
  rw [lineBlocks, List.zipIdx_append, List.map_append, Nat.add_comm number]
  rfl

/-! ### Blocks and their lines -/

/-- Whether blocks are those of lines that are numbered from `number`, each made of the number, the
line and the options alone. -/
def AreBlocks (o : CheckOptions) (number : Nat) (lines : List Text) (blocks : List Block) : Prop :=
  List.Forall₂ (fun x b => Block.ofLine o x.2 x.1 = .ok b) (lines.zipIdx number) blocks

lemma areBlocks_lineBlocks (ho : 1 ≤ o.maxTokens) (number : Nat) {lines : List Text}
    (h : ∀ line ∈ lines, Unbroken line) : AreBlocks o number lines (lineBlocks o number lines) := by
  rw [AreBlocks, lineBlocks, List.forall₂_map_right_iff, List.forall₂_same]
  intro x hx
  exact Block.ofLine_unbroken ho x.2 (h x.1 (List.fst_mem_of_mem_zipIdx hx))

/-- Totals are added one by one. -/
instance : Add Summary where
  add s t :=
    ⟨s.lines + t.lines, s.valid + t.valid, s.invalid + t.invalid, s.truncated + t.truncated⟩

lemma summary_append (as bs : List Block) (ending₁ ending₂ ending₃ : Ending ε) :
    (⟨as ++ bs, ending₁⟩ : Run ε).summary =
      (⟨as, ending₂⟩ : Run ε).summary + (⟨bs, ending₃⟩ : Run ε).summary := by
  simp only [Run.summary, List.length_append, List.countP_append]
  rfl

/-- What is counted of a block depends on its line alone. -/
lemma countP_lineBlocks {p : Block → Bool} {q : Text → Bool}
    (h : ∀ number line, p (.ofWords o number (words line)) = q line) (number : Nat)
    (lines : List Text) : (lineBlocks o number lines).countP p = lines.countP q := by
  induction lines generalizing number with
  | nil => rfl
  | cons line lines ih =>
    rw [lineBlocks_cons, List.countP_cons, List.countP_cons, ih (number + 1), h]

/-- The totals of a run do not depend on where the numbers begin. -/
lemma summary_lineBlocks (o : CheckOptions) (number number' : Nat) (lines : List Text)
    (ending ending' : Ending ε) :
    (⟨lineBlocks o number lines, ending⟩ : Run ε).summary =
      (⟨lineBlocks o number' lines, ending'⟩ : Run ε).summary := by
  have hcount (p : Block → Bool)
      (h : ∀ n m line, p (.ofWords o n (words line)) = p (.ofWords o m (words line))) :
      (lineBlocks o number lines).countP p = (lineBlocks o number' lines).countP p := by
    rw [countP_lineBlocks (q := fun line => p (.ofWords o 0 (words line))) (fun n => h n 0),
      countP_lineBlocks (fun n => h n 0)]
  simp only [Run.summary, length_lineBlocks]
  rw [hcount Block.isValid fun _ _ _ => rfl, hcount (!·.isValid) fun _ _ _ => rfl,
    hcount Block.isTruncated fun _ _ _ => rfl]

/-! ### Lines that are refused -/

lemma Block.ofLine_not_unbroken (ho : 1 ≤ o.maxTokens) (number : Nat) {line : Text}
    (h : ¬Unbroken line) : Block.ofLine o number line = .error (.terminator line) := by
  rw [Block.ofLine, judgeLine, Statement.ofLine_not_unbroken h ho]
  rfl

lemma Feed.check_refused (ho : 1 ≤ o.maxTokens) {xs : List Text}
    (hxs : ∀ line ∈ xs, Unbroken line) {line : Text} (h : ¬Unbroken line) (rest : List Text)
    (failure : Option ε) :
    Feed.check o ⟨xs ++ line :: rest, failure⟩ =
      ⟨lineBlocks o 1 xs, .refused (.terminator line)⟩ := by
  have hblocks : blocksFrom o 1 (xs ++ line :: rest) =
      (lineBlocks o 1 xs, some (.terminator line)) := by
    rw [blocksFrom_append ho 1 hxs, blocksFrom, Block.ofLine_not_unbroken ho _ h]
    simp only [List.append_nil]
  rw [Feed.check, hblocks]

/-! ### Runs -/

/-- Lines are judged apart from each other: more lines add their blocks, numbered on, and their
totals, and where a run breaks off it has written what belongs to the lines before, and nothing
else. -/
theorem Feed.check_parts (ho : 1 ≤ o.maxTokens) {xs : List Text}
    (hxs : ∀ line ∈ xs, Unbroken line) :
    let r : Run ε := Feed.check o ⟨xs, none⟩
    (r.ending = .finished ∧ AreBlocks o 1 xs r.blocks) ∧
      (∀ ys, (∀ line ∈ ys, Unbroken line) →
        let s : Run ε := Feed.check o ⟨xs ++ ys, none⟩
        s.ending = .finished ∧
          s.summary = r.summary + (Feed.check o ⟨ys, none⟩ : Run ε).summary ∧
          ∃ later, AreBlocks o (xs.length + 1) ys later ∧
            s.out = r.out ++ unlines (later.flatMap Block.report) ∧
            s.err = r.err ++ unlines (later.flatMap Block.diagnostics)) ∧
      (∀ line rest failure, ¬Unbroken line →
        let s : Run ε := Feed.check o ⟨xs ++ line :: rest, failure⟩
        s.ending = .refused (.terminator line) ∧ s.out = r.out ∧ s.err = r.err) ∧
      ∀ e, let s : Run ε := Feed.check o ⟨xs, some e⟩
        s.ending = .failed e ∧ s.out = r.out ∧ s.err = r.err := by
  intro r
  have hr : r = ⟨lineBlocks o 1 xs, .finished⟩ := Feed.check_unbroken ho hxs
  refine ⟨?_, ?_, ?_, ?_⟩
  · rw [hr]
    exact ⟨rfl, areBlocks_lineBlocks ho 1 hxs⟩
  · intro ys hys s
    have hs : s = ⟨lineBlocks o 1 xs ++ lineBlocks o (xs.length + 1) ys, .finished⟩ := by
      have hall : ∀ line ∈ xs ++ ys, Unbroken line := by
        simp only [List.mem_append]
        rintro line (hx | hy)
        · exact hxs line hx
        · exact hys line hy
      rw [Nat.add_comm, ← lineBlocks_append]
      exact Feed.check_unbroken ho hall
    have hy : (Feed.check o ⟨ys, none⟩ : Run ε) = ⟨lineBlocks o 1 ys, .finished⟩ :=
      Feed.check_unbroken ho hys
    refine ⟨by rw [hs], ?_, lineBlocks o (xs.length + 1) ys, areBlocks_lineBlocks ho _ hys, ?_, ?_⟩
    · rw [hs, hr, hy, summary_append _ _ _ .finished .finished,
        summary_lineBlocks o (xs.length + 1) 1]
    · simp only [hs, hr, Run.out, List.flatMap_append, unlines_append]
    · simp only [hs, hr, Run.err, List.flatMap_append, unlines_append]
  · intro line rest failure h s
    rw [hr, show s = _ from Feed.check_refused ho hxs h rest failure]
    exact ⟨rfl, rfl, rfl⟩
  · intro e s
    have hs : s = ⟨lineBlocks o 1 xs, .failed e⟩ := Feed.check_unbroken ho (f := ⟨xs, some e⟩) hxs
    rw [hr, hs]
    exact ⟨rfl, rfl, rfl⟩

/-- Lines with words left out, a blank line and a line with a carriage return in it. -/
theorem Feed.check_parts_torn :
    let o : CheckOptions := ⟨2, true, true⟩
    let xs : List Text := ["ADD AREG X", ""]
    let ys : List Text := ["HALT\tADD DC"]
    let torn : Text := "STOP\rSTOP"
    let r : Run SystemError := Feed.check o ⟨xs, none⟩
    let s : Run SystemError := Feed.check o ⟨xs ++ torn :: ys, none⟩
    1 ≤ o.maxTokens ∧ (∀ line ∈ xs, Unbroken line) ∧ (∀ line ∈ ys, Unbroken line) ∧
      ¬Unbroken torn ∧
      (Feed.check o ⟨xs ++ ys, none⟩ : Run SystemError).summary =
        r.summary + (Feed.check o ⟨ys, none⟩ : Run SystemError).summary ∧
      (s.ending = .refused (.terminator torn) ∧ s.out = r.out ∧ s.err = r.err) ∧
      (Feed.check o ⟨xs, some .unexplained⟩ : Run SystemError).err = r.err := by
  intro o xs ys torn r s
  have hxs : ∀ line ∈ xs, Unbroken line := by decide
  have hys : ∀ line ∈ ys, Unbroken line := by decide
  have htorn : ¬Unbroken torn := by decide
  obtain ⟨-, happend, hrefused, hfailed⟩ :=
    Feed.check_parts (ε := SystemError) (o := o) (by decide) hxs
  exact ⟨by decide, hxs, hys, htorn, (happend ys hys).2.1, hrefused torn ys none htorn,
    (hfailed .unexplained).2.2⟩

end AsmLint
