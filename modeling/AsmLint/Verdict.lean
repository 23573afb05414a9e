import AsmLint.Slot

/-!
# Verdicts

A verdict on a statement holds its words and one violation for each slot whose rule refuses the word
in it, in the order of the slots. A statement whose shape has no rules is let through, or, on
demand, gets one violation as a whole.
-/

namespace AsmLint

/-- A breach of the rules, as it is reported: the slot (none for the statement as a whole), the name
of its role, the word in it, and what is said of it. -/
structure Violation where
  slot : Option Int
  role : Text
  token : Text
  message : Text
deriving DecidableEq, Repr

structure Verdict where
  words : List Text
  violations : List Violation := []
  shapeSupported : Bool := true
deriving DecidableEq, Repr

/-- A statement is valid when nothing is held against it. -/
def Verdict.isValid (v : Verdict) : Bool := v.violations.isEmpty

/-- The violation by a word that the slot of the given number refuses. -/
def Slot.violation (s : Slot) (number : Nat) (word : Text) : Violation :=
  ⟨some number, s.role.name, word, s.role.message⟩

/-- The violations by words in their slots, where the first slot has the given number. -/
def Slot.violations (number : Nat) : List Slot → List Text → List Violation
  | s :: slots, w :: ws =>
    if s.refuses w then s.violation number w :: Slot.violations (number + 1) slots ws
    else Slot.violations (number + 1) slots ws
  | _, _ => []

def shapeViolation (words : List Text) : Violation :=
  ⟨none, Role.shape.name, joinWith [' '] words, Role.shape.message⟩

/-- The verdict on a statement; `rejectUnsupported` holds an unsupported shape against it. -/
def judge (words : List Text) (rejectUnsupported : Bool) : Verdict :=
  match Slot.ofShape? words.length with
  | some slots => ⟨words, Slot.violations 0 slots words, true⟩
  | none => ⟨words, if rejectUnsupported then [shapeViolation words] else [], false⟩

@[simp] theorem words_judge (words : List Text) (rejectUnsupported : Bool) :
    (judge words rejectUnsupported).words = words := by
  unfold judge; split <;> rfl

/-- The shapes that are supported are those of one to four words. -/
theorem shapeSupported_judge (words : List Text) (rejectUnsupported : Bool) :
    (judge words rejectUnsupported).shapeSupported = true ↔
      1 ≤ words.length ∧ words.length ≤ 4 := by
  rw [← Slot.ofShape?_isSome]
  unfold judge
  split <;> simp_all

end AsmLint
