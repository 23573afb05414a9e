import AsmLint.Text.Blank
import AsmLint.Text.DecimalDigit
import AsmLint.Text.Quoted

/-!
# Numerals

A numeral is a run of decimal digits of any scripts, with at most one underscore between two digits,
a sign directly in front of it if wanted, and white space around the whole. Its digits are limited
in number.
-/

namespace AsmLint

/-- Why a text is no positive integer. -/
inductive NumeralError where
  | notInteger (text : Text)
  | notPositive (value : Int)
deriving DecidableEq, Repr

def NumeralError.message : NumeralError → Text
  | notInteger text => "not an integer: " ++ quoted text
  | notPositive value => "must be at least 1, got " ++ signedDecimal value

namespace Numeral

/-- A numeral has at most so many digits, leading zeros included. -/
def maxDigits : Nat := 4300

/-- The values of digits that may be parted by single underscores. -/
def digits? : Text → Option (List Nat)
  | [] => none
  | c :: t =>
    match digitValue? c, t with
    | none, _ => none
    | some d, [] => some [d]
    | some d, '_' :: t => (digits? t).map (d :: ·)
    | some d, t => (digits? t).map (d :: ·)

/-- The number that digits spell, the first one counting most. -/
def value (digits : List Nat) : Nat := digits.foldl (fun n d => 10 * n + d) 0

/-- A numeral without a sign. -/
def magnitude? (t : Text) : Option Nat :=
  match digits? t with
  | some digits => if digits.length ≤ maxDigits then some (value digits) else none
  | none => none

def signed? : Text → Option Int
  | '+' :: t => (magnitude? t).map fun n => (n : Int)
  | '-' :: t => (magnitude? t).map fun n => -(n : Int)
  | t => (magnitude? t).map fun n => (n : Int)

/-- The positive integer that a text spells. -/
def positive? (t : Text) : Except NumeralError Nat :=
  match signed? (trimBlank t) with
  | none => .error (.notInteger t)
  | some n => if n < 1 then .error (.notPositive n) else .ok n.toNat

end Numeral

end AsmLint
