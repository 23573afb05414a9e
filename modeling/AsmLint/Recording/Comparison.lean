import AsmLint.Text.LineBreak
import AsmLint.Text.Quoted

/-!
# Comparing reports

Two reports agree when they have the same lines. Where they do not, the first position at which both
have a line and the two lines differ is told, or else the two numbers of lines.
-/

namespace AsmLint

inductive Difference where
  /-- The lines at one position, counted from 1, differ. -/
  | line (number : Nat) (expected actual : Text)
  | count (expected actual : Nat)
deriving DecidableEq, Repr

def Difference.message : Difference → Text
  | line number expected actual =>
    "report line " ++ decimal number ++ ": expected " ++ quoted expected ++ ", got " ++
      quoted actual
  | count expected actual =>
    "expected " ++ decimal expected ++ " report lines, got " ++ decimal actual

/-- The first position at which two lists of lines differ, if both reach it; the first lines stand
at the position `number`. -/
def Difference.first? (number : Nat) : List Text → List Text → Option Difference
  | w :: ws, g :: gs =>
    if w = g then Difference.first? (number + 1) ws gs else some (.line number w g)
  | _, _ => none

def Difference.ofLines (expected actual : List Text) : Option Difference :=
  match Difference.first? 1 expected actual with
  | some d => some d
  | none =>
    if expected.length = actual.length then none
    else some (.count expected.length actual.length)

/-- How two reports differ, if they do. -/
def Difference.ofReports (expected actual : Text) : Option Difference :=
  Difference.ofLines (reportLines expected) (reportLines actual)

/-- A list of lines does not differ from itself. -/
@[simp] theorem Difference.first?_self (number : Nat) (ls : List Text) :
    Difference.first? number ls ls = none := by
  induction ls generalizing number with
  | nil => rfl
  | cons l ls ih => simp [Difference.first?, ih]

@[simp] theorem Difference.ofReports_self (t : Text) : Difference.ofReports t t = none := by
  simp [Difference.ofReports, Difference.ofLines]

end AsmLint
