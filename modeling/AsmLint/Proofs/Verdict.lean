import AsmLint.Verdict
import Mathlib.Tactic.SplitIfs

/-!
# What verdicts hold

Every violation has the message of a role and holds a word of the statement, or all of its words,
and there is at most one for each word.
-/

namespace AsmLint

/-- The numbers of numbered things ascend. -/
lemma pairwise_zipIdx {α : Type} (l : List α) (n : Nat) :
    (l.zipIdx n).Pairwise fun x y => x.2 < y.2 := by
  rw [← List.pairwise_map (f := Prod.snd) (R := (· < ·)), List.zipIdx_map_snd]
  exact List.pairwise_lt_range'

lemma Slot.length_violations_le (n : Nat) (slots : List Slot) (ws : List Text) :
    (Slot.violations n slots ws).length ≤ slots.length := by
  induction slots generalizing n ws with
  | nil => simp [Slot.violations]
  | cons s slots ih =>
    cases ws with
    | nil => simp [Slot.violations]
    | cons w ws =>
      have := ih (n + 1) ws
      simp only [Slot.violations]
      split_ifs <;> simp only [List.length_cons] <;> omega

/-- A violation in a slot holds a word and has the message of a role. -/
lemma Slot.mem_violations {n : Nat} {slots : List Slot} {ws : List Text} {x : Violation}
    (h : x ∈ Slot.violations n slots ws) : x.token ∈ ws ∧ ∃ r : Role, x.message = r.message := by
  induction slots generalizing n ws with
  | nil => simp [Slot.violations] at h
  | cons s slots ih =>
    cases ws with
    | nil => simp [Slot.violations] at h
    | cons w ws =>
      have later (hx : x ∈ Slot.violations (n + 1) slots ws) :
          x.token ∈ w :: ws ∧ ∃ r : Role, x.message = r.message :=
        ⟨List.mem_cons_of_mem _ (ih hx).1, (ih hx).2⟩
      simp only [Slot.violations] at h
      split_ifs at h
      · rcases List.mem_cons.mp h with rfl | h
        · exact ⟨List.mem_cons_self, s.role, rfl⟩
        · exact later h
      · exact later h

/-- A violation holds a word of the statement or all words, and has the message of a role. -/
theorem mem_violations_judge {ws : List Text} {reject : Bool} {x : Violation}
    (h : x ∈ (judge ws reject).violations) :
    (x.token ∈ ws ∨ x.token = joinWith [' '] ws) ∧ ∃ r : Role, x.message = r.message := by
  unfold judge at h
  split at h
  · exact ⟨.inl (Slot.mem_violations h).1, (Slot.mem_violations h).2⟩
  · cases reject with
    | false => simp at h
    | true =>
      obtain rfl : x = shapeViolation ws := by simpa using h
      exact ⟨.inr rfl, .shape, rfl⟩

/-- There are no more violations than a supported statement has words. -/
theorem length_violations_judge_le (ws : List Text) (reject : Bool) :
    (judge ws reject).violations.length ≤ 4 := by
  unfold judge
  split
  · rename_i slots hslots
    have hshape := Slot.ofShape?_isSome.mp (Option.isSome_of_mem hslots)
    have hlength := Slot.length_ofShape? hslots
    have := Slot.length_violations_le 0 slots ws
    simp only
    omega
  · cases reject <;> simp

end AsmLint
