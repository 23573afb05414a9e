import AsmLint.Proofs.Check
import AsmLint.Proofs.Verdict.Shape

/-!
# Verdicts under a limit on tokens

What is judged of a line are the tokens that the limit leaves of it. A limit of five tokens or more
leaves no line with rules that has none as a whole, so any two such limits lead to verdicts that are
alike. A smaller limit does: of a longer line it leaves a statement with rules, and this one is
judged.
-/

namespace AsmLint

/-- How the verdict on a line of the given words depends on the number of tokens that are kept. -/
structure Judgement.Limited (ws : List Text) (reject : Bool) (judged : Int → Judgement) : Prop where
  /-- From five tokens on the limit does not matter, but for the words that are shown, -/
  alike : ∀ k k', 5 ≤ k → 5 ≤ k' → (judged k).verdict.Alike (judged k').verdict
  /-- and on a line of four words or less it does not matter at all. -/
  same : ws.length ≤ 4 → ∀ k k', 5 ≤ k → 5 ≤ k' → (judged k).verdict = (judged k').verdict
  /-- Such a limit leaves a statement with rules just where the whole line has rules, -/
  shapeSupported : ∀ k, 5 ≤ k →
    ((judged k).verdict.shapeSupported = true ↔ 1 ≤ ws.length ∧ ws.length ≤ 4)
  /-- so where it drops words the shape is all that may be held against the statement. -/
  truncated : ∀ k, 5 ≤ k → (judged k).statement.truncated = true →
    (judged k).verdict.shapeSupported = false ∧ (judged k).verdict.isValid = !reject ∧
      (judged k).verdict.violations =
        if reject then [shapeViolation (judged k).statement.words] else []
  /-- A smaller limit that drops words makes a statement with rules of the first ones. -/
  first : ∀ k : Int, 1 ≤ k → k ≤ 4 → k < ws.length →
    (judged k).verdict = judge (ws.take k.toNat) reject ∧ (judged k).verdict.shapeSupported = true

lemma limited_ofWords (o : CheckOptions) (ws : List Text) :
    Judgement.Limited ws o.rejectUnsupported fun k => .ofWords { o with maxTokens := k } ws where
  alike k k' hk hk' := by
    simp only [Judgement.verdict_ofWords]
    exact judge_take_alike (by omega) (by omega) ws _
  same hlength k k' hk hk' := by
    simp only [Judgement.verdict_ofWords]
    rw [List.take_of_length_le (by omega), List.take_of_length_le (by omega)]
  shapeSupported k hk := by
    simp only [Judgement.verdict_ofWords, shapeSupported_judge, List.length_take]
    omega
  truncated k hk htruncated := by
    have hlength : k.toNat < ws.length := of_decide_eq_true htruncated
    have hunsupported : 5 ≤ (ws.take k.toNat).length := by
      rw [List.length_take]
      omega
    simp only [Judgement.verdict_ofWords]
    rw [judge_unsupported (.inr hunsupported), Judgement.ofWords, Statement.words_ofWords]
    cases o.rejectUnsupported <;> exact ⟨rfl, rfl, rfl⟩
  first k hk hk' hlength := by
    simp only [Judgement.verdict_ofWords, shapeSupported_judge, List.length_take, true_and]
    omega

/-- On an unbroken line every limit leads to a verdict, and those of five tokens and more to
verdicts that are alike. -/
theorem judgeLine_limited (o : CheckOptions) {line : Text} (h : Unbroken line) :
    ∃ judged : Int → Judgement,
      (∀ k, 1 ≤ k → judgeLine { o with maxTokens := k } line = .ok (judged k)) ∧
        Judgement.Limited (words line) o.rejectUnsupported judged :=
  ⟨_, fun _ hk => judgeLine_unbroken hk h, limited_ofWords o (words line)⟩

/-- A line of six words that is cut to five, and to two. -/
theorem judgeLine_limited_six :
    let line : Text := "LOOP DC\tAREG X  Y Z"
    let o : CheckOptions := { rejectUnsupported := true }
    Unbroken line ∧ ∃ five nine two : Judgement,
      judgeLine { o with maxTokens := 5 } line = .ok five ∧
        judgeLine { o with maxTokens := 9 } line = .ok nine ∧
        judgeLine { o with maxTokens := 2 } line = .ok two ∧
        five.verdict.Alike nine.verdict ∧ five.verdict.shapeSupported = false ∧
        five.verdict.violations = [shapeViolation ["LOOP", "DC", "AREG", "X", "Y"]] ∧
        two.verdict = judge ["LOOP", "DC"] true := by
  intro line o
  have hline : Unbroken line := by decide
  obtain ⟨judged, hjudged, hlimited⟩ := judgeLine_limited o hline
  have hfive := hjudged 5 (by decide)
  have htruncated : (judged 5).statement.truncated = true := by
    rw [← Except.ok.inj hfive]
    rfl
  have hwords : (judged 5).statement.words = ["LOOP", "DC", "AREG", "X", "Y"] := by
    rw [← Except.ok.inj hfive]
    rfl
  obtain ⟨hshape, -, hviolations⟩ := hlimited.truncated 5 (by decide) htruncated
  rw [hwords] at hviolations
  exact ⟨hline, judged 5, judged 9, judged 2, hfive, hjudged 9 (by decide), hjudged 2 (by decide),
    hlimited.alike 5 9 (by decide) (by decide), hshape, hviolations,
    (hlimited.first 2 (by decide) (by decide) (by decide)).1⟩

end AsmLint
