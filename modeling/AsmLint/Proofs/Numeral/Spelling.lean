import AsmLint.Proofs.Numeral
import Mathlib.Data.List.Basic
import Mathlib.Data.Nat.Digits.Defs

/-!
# How numbers are spelled

A number is spelled by digits of any scripts, by single underscores between them where they are
wanted, by a sign directly in front of them and by white space around the whole. A text is read as a
number just where it spells one, so what it is padded with is of no account.
-/

namespace AsmLint

namespace Numeral

/-! ### Spellings -/

/-- A decimal digit of some script. -/
structure Figure where
  char : Char
  digit : Nat
  digitValue?_char : digitValue? char = some digit

/-- A digit and those behind it, each of which may have an underscore in front of it. -/
structure Figures where
  first : Figure
  rest : List (Bool × Figure)

namespace Figures

def text (fs : Figures) : Text :=
  fs.first.char :: fs.rest.flatMap fun x => (if x.1 then ['_'] else []) ++ [x.2.char]

def toList (fs : Figures) : List Figure := fs.first :: fs.rest.map Prod.snd

def digits (fs : Figures) : List Nat := fs.toList.map Figure.digit

end Figures

/-- A sign in front of digits. -/
inductive Sign where
  | plus
  | minus
deriving DecidableEq, Repr

/-- A sign, or none, as it is written. -/
def Sign.text : Option Sign → Text
  | none => []
  | some plus => ['+']
  | some minus => ['-']

/-- What a sign, or none, makes of a number. -/
def Sign.apply : Option Sign → Nat → Int
  | some minus, n => -(n : Int)
  | _, n => n

/-- A number as it is spelled. -/
structure Spelling where
  before : Text
  sign : Option Sign
  figures : Figures
  after : Text
  blank_before : ∀ c ∈ before, isBlank c
  blank_after : ∀ c ∈ after, isBlank c
  length_le : figures.toList.length ≤ 4300

namespace Spelling

def text (s : Spelling) : Text := s.before ++ (Sign.text s.sign ++ s.figures.text) ++ s.after

/-- The number that the digits spell, the first one counting most. -/
def magnitude (s : Spelling) : Nat := Nat.ofDigits 10 s.figures.digits.reverse

def value (s : Spelling) : Int := Sign.apply s.sign s.magnitude

end Spelling

/-! ### Digits -/

/-- No digit of any script is white space. -/
lemma Figure.isBlank_char (f : Figure) : isBlank f.char = false := by
  have hapart : ∀ z ∈ DecimalDigit.zeros, ∀ r ∈ Blank.ranges, z + 10 ≤ r.1 ∨ r.2 < z := by
    decide +kernel
  obtain ⟨z, hz, -⟩ := Option.map_eq_some_iff.mp f.digitValue?_char
  have hrange := List.find?_some hz
  simp only [Bool.and_eq_true, decide_eq_true_eq] at hrange
  rw [isBlank, List.any_eq_false]
  intro r hr
  simp only [Bool.and_eq_true, decide_eq_true_eq, not_and]
  intro hlow hhigh
  rcases hapart z (List.mem_of_find?_eq_some hz) r hr with h | h <;> omega

lemma Figure.char_ne (f : Figure) {c : Char} (h : digitValue? c = none) : f.char ≠ c := by
  rintro rfl
  cases h.symm.trans f.digitValue?_char

lemma digits?_cons_underscore {c : Char} {d : Nat} (h : digitValue? c = some d) (t : Text) :
    digits? (c :: '_' :: t) = (digits? t).map (d :: ·) := by
  rw [digits?.eq_def]
  simp [h]

lemma digits?_cons_cons {c e : Char} {d : Nat} (h : digitValue? c = some d) (he : e ≠ '_')
    (t : Text) : digits? (c :: e :: t) = (digits? (e :: t)).map (d :: ·) := by
  rw [digits?.eq_def]
  simp [h, he]

lemma Figures.digits?_text (fs : Figures) : digits? fs.text = some fs.digits := by
  obtain ⟨first, rest⟩ := fs
  induction rest generalizing first with
  | nil => simp [text, digits, toList, digits?, first.digitValue?_char]
  | cons x rest ih =>
    obtain ⟨underscore, next⟩ := x
    cases underscore with
    | true =>
      change digits? (first.char :: '_' :: text ⟨next, rest⟩) = _
      rw [digits?_cons_underscore first.digitValue?_char, ih next]
      rfl
    | false =>
      change digits? (first.char :: text ⟨next, rest⟩) = _
      refine (digits?_cons_cons first.digitValue?_char (next.char_ne rfl) _).trans ?_
      exact congrArg (Option.map _) (ih next)

/-- Digits are read just as they are written. -/
lemma digits?_eq_some {t : Text} {ds : List Nat} :
    digits? t = some ds ↔ ∃ fs : Figures, fs.text = t ∧ fs.digits = ds := by
  constructor
  · intro h
    fun_induction digits? t generalizing ds with
    | case1 => cases h
    | case2 => cases h
    | case3 c d hd =>
      obtain rfl := Option.some.inj h
      exact ⟨⟨⟨c, d, hd⟩, []⟩, rfl, rfl⟩
    | case4 c d t hd ih =>
      obtain ⟨es, hes, rfl⟩ := Option.map_eq_some_iff.mp h
      obtain ⟨⟨first, rest⟩, rfl, rfl⟩ := ih hes
      exact ⟨⟨⟨c, d, hd⟩, (true, first) :: rest⟩, rfl, rfl⟩
    | case5 c d t _ _ hd ih =>
      obtain ⟨es, hes, rfl⟩ := Option.map_eq_some_iff.mp h
      obtain ⟨⟨first, rest⟩, rfl, rfl⟩ := ih hes
      exact ⟨⟨⟨c, d, hd⟩, (false, first) :: rest⟩, rfl, rfl⟩
  · rintro ⟨fs, rfl, rfl⟩
    exact fs.digits?_text

lemma value_eq_ofDigits (ds : List Nat) : value ds = Nat.ofDigits 10 ds.reverse := by
  rw [value, Nat.ofDigits_eq_foldr, List.foldr_reverse]
  simp [Nat.add_comm]

lemma magnitude?_eq_some {t : Text} {n : Nat} :
    magnitude? t = some n ↔ ∃ fs : Figures, fs.text = t ∧ fs.toList.length ≤ maxDigits ∧
      Nat.ofDigits 10 fs.digits.reverse = n := by
  rw [magnitude?]
  constructor
  · intro h
    split at h
    · rename_i ds hds
      obtain ⟨fs, rfl, rfl⟩ := digits?_eq_some.mp hds
      split_ifs at h with hlength
      refine ⟨fs, rfl, by simpa [Figures.digits] using hlength, ?_⟩
      rw [← value_eq_ofDigits]
      exact Option.some.inj h
    · cases h
  · rintro ⟨fs, rfl, hlength, rfl⟩
    rw [fs.digits?_text, ← value_eq_ofDigits]
    exact if_pos (by simpa [Figures.digits] using hlength)

/-! ### Signs -/

/-- A text is read without the sign in front of it, which is applied to what is read. -/
lemma exists_sign (t : Text) : ∃ sign u, Sign.text sign ++ u = t ∧
    signed? t = (magnitude? u).map (Sign.apply sign) := by
  unfold signed?
  split
  · rename_i u
    refine ⟨some .plus, u, rfl, ?_⟩
    cases magnitude? u <;> rfl
  · rename_i u
    refine ⟨some .minus, u, rfl, ?_⟩
    cases magnitude? u <;> rfl
  · refine ⟨none, t, rfl, ?_⟩
    cases magnitude? t <;> rfl

lemma signed?_text (sign : Option Sign) (fs : Figures) :
    signed? (Sign.text sign ++ fs.text) = (magnitude? fs.text).map (Sign.apply sign) := by
  cases sign with
  | none =>
    -- a digit is no sign
    rw [Sign.text, List.nil_append]
    unfold signed?
    split
    · rename_i heq
      exact absurd (List.cons.inj heq).1 (fs.first.char_ne rfl)
    · rename_i heq
      exact absurd (List.cons.inj heq).1 (fs.first.char_ne rfl)
    · cases magnitude? fs.text <;> rfl
  | some sign =>
    cases sign with
    | plus =>
      change signed? ('+' :: fs.text) = _
      rw [signed?]
      cases magnitude? fs.text <;> rfl
    | minus =>
      change signed? ('-' :: fs.text) = _
      rw [signed?]
      cases magnitude? fs.text <;> rfl

/-! ### White space -/

lemma dropWhile_blank_append {front rest : Text} (hfront : ∀ c ∈ front, isBlank c) {c : Char}
    (hc : rest.head? = some c) (hblank : isBlank c = false) :
    (front ++ rest).dropWhile isBlank = rest := by
  obtain ⟨t, rfl⟩ := List.head?_eq_some_iff.mp hc
  rw [List.dropWhile_append_of_pos hfront, List.dropWhile_cons_of_neg (by simp [hblank])]

/-- White space is dropped at either end of what begins and ends with something else. -/
lemma trimBlank_append {before core after : Text} (hbefore : ∀ c ∈ before, isBlank c)
    (hafter : ∀ c ∈ after, isBlank c) {c e : Char} (hc : core.head? = some c)
    (hfirst : isBlank c = false) (he : core.getLast? = some e) (hlast : isBlank e = false) :
    trimBlank (before ++ core ++ after) = core := by
  have hhead : (core ++ after).head? = some c := by rw [List.head?_append, hc, Option.some_or]
  have hreverse : core.reverse.head? = some e := by rw [List.head?_reverse, he]
  rw [trimBlank, List.append_assoc, dropWhile_blank_append hbefore hhead hfirst,
    List.reverse_append, dropWhile_blank_append (by simpa using hafter) hreverse hlast,
    List.reverse_reverse]

/-- What is dropped at either end is white space. -/
lemma exists_blank (t : Text) : ∃ before after, (∀ c ∈ before, isBlank c) ∧
    (∀ c ∈ after, isBlank c) ∧ before ++ trimBlank t ++ after = t := by
  refine ⟨t.takeWhile isBlank, ((t.dropWhile isBlank).reverse.takeWhile isBlank).reverse,
    fun c => List.mem_takeWhile_imp,
    fun c hc => List.mem_takeWhile_imp (List.mem_reverse.mp hc), ?_⟩
  rw [trimBlank, List.append_assoc, ← List.reverse_append, List.takeWhile_append_dropWhile,
    List.reverse_reverse, List.takeWhile_append_dropWhile]

lemma Figures.exists_getLast? (fs : Figures) : ∃ f : Figure, fs.text.getLast? = some f.char := by
  obtain ⟨first, rest⟩ := fs
  rcases List.eq_nil_or_concat' rest with rfl | ⟨front, x, rfl⟩
  · exact ⟨first, rfl⟩
  · refine ⟨x.2, ?_⟩
    rw [text, List.flatMap_append, List.flatMap_singleton, ← List.append_assoc, ← List.cons_append,
      List.getLast?_concat]

lemma Spelling.trimBlank_text (s : Spelling) :
    trimBlank s.text = Sign.text s.sign ++ s.figures.text := by
  obtain ⟨f, hf⟩ := s.figures.exists_getLast?
  have hlast : (Sign.text s.sign ++ s.figures.text).getLast? = some f.char := by
    rw [List.getLast?_append, hf, Option.some_or]
  obtain ⟨c, hc, hfirst⟩ : ∃ c, (Sign.text s.sign ++ s.figures.text).head? = some c ∧
      isBlank c = false := by
    rcases s.sign with _ | _ | _
    · exact ⟨_, rfl, s.figures.first.isBlank_char⟩
    · exact ⟨_, rfl, rfl⟩
    · exact ⟨_, rfl, rfl⟩
  exact trimBlank_append s.blank_before s.blank_after hc hfirst hlast f.isBlank_char

/-! ### Reading -/

/-- A text is read as a number just where it spells that number. -/
theorem signed?_trimBlank_eq_some {t : Text} {v : Int} :
    signed? (trimBlank t) = some v ↔ ∃ s : Spelling, s.text = t ∧ s.value = v := by
  constructor
  · intro h
    obtain ⟨before, after, hbefore, hafter, ht⟩ := exists_blank t
    obtain ⟨sign, u, hu, hsigned⟩ := exists_sign (trimBlank t)
    obtain ⟨n, hn, rfl⟩ := Option.map_eq_some_iff.mp (hsigned.symm.trans h)
    obtain ⟨fs, rfl, hlength, rfl⟩ := magnitude?_eq_some.mp hn
    refine ⟨⟨before, sign, fs, after, hbefore, hafter, hlength⟩, ?_, rfl⟩
    rw [← ht, ← hu]
    rfl
  · rintro ⟨s, rfl, rfl⟩
    have hmagnitude : magnitude? s.figures.text = some s.magnitude :=
      magnitude?_eq_some.mpr ⟨s.figures, rfl, s.length_le, rfl⟩
    rw [s.trimBlank_text, signed?_text, hmagnitude]
    rfl

/-! ### Plain decimal texts -/

/-- The plain decimal text of a number: no zero stands in front of other digits, and zero has no
sign. -/
inductive IsPlain : Int → Text → Prop
  | zero : IsPlain 0 ['0']
  | positive {n : Nat} {t : Text} (hn : 0 < n) (hdigit : ∀ c ∈ t, c.isDigit = true)
      (hhead : t.head? ≠ some '0') (hvalue : Nat.ofDigitChars 10 t 0 = n) : IsPlain n t
  | negative {n : Nat} {t : Text} (hn : 0 < n) (h : IsPlain n t) : IsPlain (-n) ('-' :: t)

lemma head?_decimal {n : Nat} (hn : 0 < n) : (decimal n).head? ≠ some '0' := by
  induction n using Nat.strongRecOn with
  | ind n ih =>
    by_cases h : n < 10
    · rw [decimal, Nat.toDigits_of_lt_base h]
      interval_cases n <;> decide
    · rw [decimal, Nat.toDigits_of_base_le (by decide) (by omega), ← decimal,
        List.head?_append_of_ne_nil _ (decimal_ne_nil _)]
      exact ih (n / 10) (by omega) (by omega)

lemma isPlain_signedDecimal (v : Int) : IsPlain v (signedDecimal v) := by
  have hpositive {n : Nat} (hn : 0 < n) : IsPlain n (decimal n) :=
    .positive hn (fun c => isDigit_of_mem_decimal) (head?_decimal hn) (ofDigitChars_decimal n)
  obtain ⟨n, rfl | rfl⟩ := v.eq_nat_or_neg
  · rw [signedDecimal_natCast]
    rcases n.eq_zero_or_pos with rfl | hn
    · exact .zero
    · exact hpositive hn
  · rcases n.eq_zero_or_pos with rfl | hn
    · exact .zero
    · rw [signedDecimal, if_pos (by omega), Int.natAbs_neg, Int.natAbs_natCast]
      exact .negative hn (hpositive hn)

/-! ### Positive numbers -/

/-- Digits of the first script are worth what they are worth in a decimal text. -/
lemma Figures.ofDigits_digits {fs : Figures}
    (h : ∀ c ∈ fs.toList.map Figure.char, c.isDigit = true) :
    Nat.ofDigits 10 fs.digits.reverse = Nat.ofDigitChars 10 (fs.toList.map Figure.char) 0 := by
  have hdigits : fs.digits =
      (fs.toList.map Figure.char).map fun c => c.toNat - '0'.toNat := by
    rw [digits, List.map_map]
    refine List.map_congr_left fun f hf => ?_
    have hvalue := digitValue?_digit (h f.char (List.mem_map_of_mem hf))
    exact Option.some.inj (f.digitValue?_char.symm.trans hvalue)
  rw [← value_eq_ofDigits, hdigits, value, List.foldl_map, Nat.ofDigitChars_eq_foldl]

/-- Zeros in front of a decimal text add nothing to the number. -/
lemma Spelling.value_of_decimal {s : Spelling} {n zeros : Nat} (hsign : s.sign ≠ some .minus)
    (h : s.figures.toList.map Figure.char = List.replicate zeros '0' ++ decimal n) :
    s.value = n := by
  have hdigit : ∀ c ∈ s.figures.toList.map Figure.char, c.isDigit = true := by
    rw [h]
    intro c hc
    rcases List.mem_append.mp hc with hc | hc
    · rw [List.eq_of_mem_replicate hc]
      rfl
    · exact isDigit_of_mem_decimal hc
  have hmagnitude : s.magnitude = n := by
    rw [magnitude, Figures.ofDigits_digits hdigit, h, Nat.ofDigitChars_append,
      Nat.ofDigitChars_replicate_zero, Nat.mul_zero, ofDigitChars_decimal]
  rw [value, hmagnitude]
  rcases hs : s.sign with _ | _ | _
  · rfl
  · rfl
  · exact absurd hs hsign

lemma positive?_text {s : Spelling} {n : Nat} (hn : 1 ≤ n) (hvalue : s.value = n) :
    positive? s.text = .ok n :=
  positive?_eq_ok.mpr ⟨hn, signed?_trimBlank_eq_some.mpr ⟨s, rfl, hvalue⟩⟩

/-- What becomes of a text that ought to spell a positive number. -/
structure ReadsPositive (t : Text) (answer : Except Text Nat) : Prop where
  accepted_iff : ∀ n : Nat, answer = .ok n ↔ ∃ s : Spelling, s.text = t ∧ s.value = n ∧ 1 ≤ n
  tooSmall : ∀ s : Spelling, s.text = t → s.value < 1 →
    ∃ d, IsPlain s.value d ∧ answer = .error ("must be at least 1, got " ++ d)
  notInteger : (¬∃ s : Spelling, s.text = t) → answer = .error ("not an integer: " ++ quoted t)

/-- A text is accepted just where it spells a positive number, and refused with the number that it
spells or else as it is. The decimal text of a number is accepted as this number, with zeros in
front, underscores between its digits, a plus sign and white space as well. -/
theorem positive?_spelled :
    (∀ t, ReadsPositive t ((positive? t).mapError NumeralError.message)) ∧
      (∀ n : Nat, 1 ≤ n → n < 10 ^ 4300 → positive? (decimal n) = .ok n) ∧
      ∀ (n zeros : Nat) (s : Spelling), 1 ≤ n → s.sign ≠ some .minus →
        s.figures.toList.map Figure.char = List.replicate zeros '0' ++ decimal n →
        positive? s.text = .ok n := by
  refine ⟨fun t => ⟨?_, ?_, ?_⟩, fun n hn hlt => positive?_decimal hn (by rwa [maxDigits]), ?_⟩
  · intro n
    have hok : (positive? t).mapError NumeralError.message = .ok n ↔ positive? t = .ok n := by
      cases positive? t <;> simp [Except.mapError]
    rw [hok, positive?_eq_ok, signed?_trimBlank_eq_some]
    constructor
    · rintro ⟨hn, s, hs, hvalue⟩
      exact ⟨s, hs, hvalue, hn⟩
    · rintro ⟨s, hs, hvalue, hn⟩
      exact ⟨hn, s, hs, hvalue⟩
  · intro s hs hvalue
    have hsigned := signed?_trimBlank_eq_some.mpr ⟨s, hs, rfl⟩
    refine ⟨signedDecimal s.value, isPlain_signedDecimal _, ?_⟩
    simp only [positive?, hsigned, if_pos hvalue]
    rfl
  · intro hnone
    have hsigned : signed? (trimBlank t) = none := by
      rw [Option.eq_none_iff_forall_ne_some]
      intro v hv
      obtain ⟨s, hs, -⟩ := signed?_trimBlank_eq_some.mp hv
      exact hnone ⟨s, hs⟩
    simp only [positive?, hsigned]
    rfl
  · intro n zeros s hn hsign hchars
    exact positive?_text hn (Spelling.value_of_decimal hsign hchars)

/-- Twelve with all that may stand around its digits, twelve in digits of two other scripts, and a
zero with a sign. -/
theorem positive?_spelled_padded :
    let zero : Figure := ⟨'0', 0, rfl⟩
    let padded : Spelling :=
      { before := "\u3000\t", sign := some .plus, after := " ",
        figures := ⟨zero, [(false, zero), (true, ⟨'1', 1, rfl⟩), (true, ⟨'2', 2, rfl⟩)]⟩,
        blank_before := List.all_eq_true.mp rfl, blank_after := List.all_eq_true.mp rfl,
        length_le := by decide }
    let mixed : Spelling :=
      { before := [], sign := none, after := [],
        figures := ⟨⟨'\u0661', 1, by decide⟩, [(true, ⟨'\uff12', 2, by decide⟩)]⟩,
        blank_before := by simp, blank_after := by simp, length_le := by decide }
    let negative : Spelling :=
      { before := [], sign := some .minus, figures := ⟨zero, []⟩, after := [],
        blank_before := by simp, blank_after := by simp, length_le := by decide }
    padded.text = "\u3000\t+00_1_2 " ∧
      padded.figures.toList.map Figure.char = List.replicate 2 '0' ++ decimal 12 ∧
      positive? padded.text = .ok 12 ∧
      (positive? mixed.text).mapError NumeralError.message = .ok 12 ∧
      ∃ d, IsPlain negative.value d ∧
        (positive? negative.text).mapError NumeralError.message =
          .error ("must be at least 1, got " ++ d) := by
  intro zero padded mixed negative
  obtain ⟨hreads, -, hpadded⟩ := positive?_spelled
  have hchars : padded.figures.toList.map Figure.char = List.replicate 2 '0' ++ decimal 12 := by
    decide
  exact ⟨by decide, hchars, hpadded 12 2 padded (by decide) (by decide) hchars,
    ((hreads mixed.text).accepted_iff 12).mpr ⟨mixed, rfl, by decide, by decide⟩,
    (hreads negative.text).tooSmall negative rfl (by decide)⟩

end Numeral

end AsmLint
