import AsmLint.Proofs.Verdict
import Mathlib.Data.List.Forall2

/-!
# Shapes without rules

The rules know a statement by the number of its words. Where they have nothing for that number, all
that is held against the statement, but for its words, is settled by whether unsupported shapes are
rejected; where they have slots, it does not matter whether they are. So the first words of a
statement are judged alike, however many they are, as long as they are five or more.
-/

namespace AsmLint

/-- The shapes without rules are those of no word and of five words and more. -/
lemma Slot.ofShape?_eq_none {n : Nat} : Slot.ofShape? n = none ↔ n = 0 ∨ 5 ≤ n := by
  rw [← Option.not_isSome_iff_eq_none, Slot.ofShape?_isSome]
  omega

section

variable {ws : List Text}

/-- The verdict on a statement without rules. -/
theorem judge_unsupported (h : ws.length = 0 ∨ 5 ≤ ws.length) (reject : Bool) :
    judge ws reject = ⟨ws, if reject then [shapeViolation ws] else [], false⟩ := by
  rw [judge, Slot.ofShape?_eq_none.mpr h]

/-- A statement with rules is judged by these alone. -/
theorem judge_supported (h : 1 ≤ ws.length ∧ ws.length ≤ 4) (reject reject' : Bool) :
    judge ws reject = judge ws reject' := by
  obtain ⟨slots, hslots⟩ := Option.isSome_iff_exists.mp (Slot.ofShape?_isSome.mpr h)
  rw [judge, judge, hslots]

end

/-! ### Verdicts that are alike -/

/-- Violations of one slot for one reason, whatever word is in it. -/
structure Violation.Alike (x y : Violation) : Prop where
  slot : x.slot = y.slot
  role : x.role = y.role
  message : x.message = y.message

/-- Verdicts that are the same but for the words they speak of. -/
structure Verdict.Alike (v w : Verdict) : Prop where
  isValid : v.isValid = w.isValid
  shapeSupported : v.shapeSupported = w.shapeSupported
  violations : List.Forall₂ Violation.Alike v.violations w.violations

lemma Verdict.Alike.refl (v : Verdict) : v.Alike v :=
  ⟨rfl, rfl, List.forall₂_same.mpr fun _ _ => ⟨rfl, rfl, rfl⟩⟩

/-- All statements without rules are judged alike. -/
lemma alike_unsupported {ws ws' : List Text} (h : ws.length = 0 ∨ 5 ≤ ws.length)
    (h' : ws'.length = 0 ∨ 5 ≤ ws'.length) (reject : Bool) :
    (judge ws reject).Alike (judge ws' reject) := by
  rw [judge_unsupported h, judge_unsupported h']
  cases reject with
  | false => exact ⟨rfl, rfl, .nil⟩
  | true => exact ⟨rfl, rfl, .cons ⟨rfl, rfl, rfl⟩ .nil⟩

/-- Any first words of a statement are judged alike, if they may be five or more. -/
theorem judge_take_alike {k k' : Nat} (hk : 5 ≤ k) (hk' : 5 ≤ k') (ws : List Text) (reject : Bool) :
    (judge (ws.take k) reject).Alike (judge (ws.take k') reject) := by
  rcases Nat.lt_or_ge ws.length 5 with hshort | hlong
  · rw [List.take_of_length_le (by omega), List.take_of_length_le (by omega)]
    exact .refl _
  · have htake {n : Nat} (hn : 5 ≤ n) : 5 ≤ (ws.take n).length := by
      rw [List.length_take]
      omega
    exact alike_unsupported (.inr (htake hk)) (.inr (htake hk')) reject

end AsmLint
