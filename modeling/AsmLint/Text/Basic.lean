/-!
# Texts

A text is a list of characters, so that a length, a cut or an order counts code points. This module
holds the few operations on texts that every other part of the checker uses: writing numbers and
writing lines.
-/

namespace AsmLint

/-- A text is the list of its characters. -/
abbrev Text := List Char

instance : Coe String Text := ⟨String.toList⟩

/-! ### Numbers -/

/-- A natural number in decimal, without leading zeros. -/
def decimal (n : Nat) : Text := Nat.toDigits 10 n

/-- An integer in decimal, with a minus sign before the digits of a negative one. -/
def signedDecimal (n : Int) : Text :=
  if n < 0 then '-' :: decimal n.natAbs else decimal n.natAbs

@[simp] theorem signedDecimal_natCast (n : Nat) : signedDecimal n = decimal n := by
  simp [signedDecimal]

/-- The digits of a number read back as the number. -/
theorem ofDigitChars_decimal (n : Nat) : Nat.ofDigitChars 10 (decimal n) 0 = n :=
  Nat.ofDigitChars_toDigits (by decide) (by decide)

theorem isDigit_of_mem_decimal {n : Nat} {c : Char} (h : c ∈ decimal n) : c.isDigit = true :=
  Nat.isDigit_of_mem_toDigits (by decide) (by decide) h

/-! ### Lines -/

/-- Lines as they are written: each is followed by a line feed. -/
def unlines (ls : List Text) : Text := ls.flatMap (· ++ ['\n'])

@[simp] theorem unlines_nil : unlines [] = [] := rfl

@[simp] theorem unlines_cons (l : Text) (ls : List Text) :
    unlines (l :: ls) = l ++ '\n' :: unlines ls := by simp [unlines]

@[simp] theorem unlines_append (ls ms : List Text) :
    unlines (ls ++ ms) = unlines ls ++ unlines ms := by simp [unlines]

def joinWith (separator : Text) (ts : List Text) : Text := separator.intercalate ts

end AsmLint
