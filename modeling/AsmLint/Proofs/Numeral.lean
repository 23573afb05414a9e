import AsmLint.Numeral
import Mathlib.Data.List.TakeWhile
import Mathlib.Tactic.IntervalCases

/-!
# Numbers in decimal as numerals

The decimal text of a number is a numeral of it, unless it has too many digits. A numeral holds
digits, underscores and a sign.
-/

namespace AsmLint

lemma decimal_ne_nil (n : Nat) : decimal n ≠ [] := Nat.toDigits_ne_nil

lemma length_decimal_le_iff {n k : Nat} (hk : 0 < k) : (decimal n).length ≤ k ↔ n < 10 ^ k :=
  Nat.length_toDigits_le_iff (by decide) hk

/-- A digit is one of ten characters. -/
lemma exists_of_isDigit {c : Char} (h : c.isDigit = true) : ∃ d < 10, c = Char.ofNat (48 + d) := by
  simp only [Char.isDigit, Bool.and_eq_true, decide_eq_true_eq, ge_iff_le, UInt32.le_iff_toNat_le]
    at h
  have hlow : 48 ≤ c.toNat := h.1
  have hhigh : c.toNat ≤ 57 := h.2
  refine ⟨c.toNat - 48, by omega, ?_⟩
  rw [Nat.add_sub_cancel' hlow, Char.ofNat_toNat]

namespace Numeral

lemma digitValue?_digit {c : Char} (h : c.isDigit = true) :
    digitValue? c = some (c.toNat - '0'.toNat) := by
  obtain ⟨d, hd, rfl⟩ := exists_of_isDigit h
  interval_cases d <;> rfl

lemma isBlank_digit {c : Char} (h : c.isDigit = true) : isBlank c = false := by
  obtain ⟨d, hd, rfl⟩ := exists_of_isDigit h
  interval_cases d <;> rfl

lemma trimBlank_eq_self {t : Text} (h : ∀ c ∈ t, isBlank c = false) : trimBlank t = t := by
  have hdrop {u : Text} (hu : ∀ c ∈ u, isBlank c = false) : u.dropWhile isBlank = u := by
    cases u with
    | nil => rfl
    | cons c u => simp [hu c List.mem_cons_self]
  rw [trimBlank, hdrop h, hdrop fun c hc => h c (List.mem_reverse.mp hc), List.reverse_reverse]

/-- A text spells the positive numbers that it spells as a number with or without a sign. -/
lemma positive?_eq_ok {t : Text} {n : Nat} :
    positive? t = .ok n ↔ 1 ≤ n ∧ signed? (trimBlank t) = some (n : Int) := by
  rw [positive?]
  cases signed? (trimBlank t) with
  | none => simp
  | some k =>
    simp only [Option.some.injEq]
    split_ifs with hk
    · simp only [false_iff]
      omega
    · rw [Except.ok.injEq]
      omega

lemma digits?_digits {t : Text} (ht : t ≠ []) (h : ∀ c ∈ t, c.isDigit = true) :
    digits? t = some (t.map fun c => c.toNat - '0'.toNat) := by
  induction t with
  | nil => exact absurd rfl ht
  | cons c t ih =>
    obtain ⟨hc, ht⟩ := List.forall_mem_cons.mp h
    cases t with
    | nil => simp [digits?, digitValue?_digit hc]
    | cons d t =>
      have hd : d ≠ '_' := by
        rintro rfl
        exact absurd (ht '_' List.mem_cons_self) (by decide)
      rw [digits?.eq_def]
      simp [digitValue?_digit hc, hd, ih (List.cons_ne_nil d t) ht]

lemma signed?_digits {t : Text} (h : ∀ c ∈ t, c.isDigit = true) :
    signed? t = (magnitude? t).map fun n : Nat => (n : Int) := by
  unfold signed?
  split
  · exact absurd (h '+' List.mem_cons_self) (by decide)
  · exact absurd (h '-' List.mem_cons_self) (by decide)
  · cases magnitude? t <;> rfl

lemma signed?_minus (t : Text) :
    signed? ('-' :: t) = (magnitude? t).map fun n : Nat => -(n : Int) := by
  rw [signed?]
  cases magnitude? t <;> rfl

/-- A number is read back from its decimal text. -/
theorem positive?_decimal {n : Nat} (hn : 1 ≤ n) (h : n < 10 ^ maxDigits) :
    positive? (decimal n) = .ok n := by
  have hdigit : ∀ c ∈ decimal n, c.isDigit = true := fun c => isDigit_of_mem_decimal
  have htrim : trimBlank (decimal n) = decimal n :=
    trimBlank_eq_self fun c hc => isBlank_digit (hdigit c hc)
  have hvalue : value ((decimal n).map fun c => c.toNat - '0'.toNat) = n := by
    rw [value, List.foldl_map]
    exact ofDigitChars_decimal n
  have hlength : (decimal n).length ≤ maxDigits := (length_decimal_le_iff (by decide)).mpr h
  have hmagnitude : magnitude? (decimal n) = some n := by
    rw [magnitude?, digits?_digits (decimal_ne_nil n) hdigit]
    simp only [List.length_map, if_pos hlength, hvalue]
  rw [positive?_eq_ok, htrim, signed?_digits hdigit, hmagnitude]
  exact ⟨hn, rfl⟩

/-- What begins with a minus sign is no positive number. -/
lemma positive?_minus (t : Text) (n : Nat) : positive? ('-' :: t) ≠ .ok n := by
  obtain ⟨u, hu⟩ : ∃ u, trimBlank ('-' :: t) = '-' :: u := by
    have hdrop : ('-' :: t).dropWhile isBlank = '-' :: t := rfl
    rw [trimBlank, hdrop, List.reverse_cons, List.dropWhile_append]
    split_ifs
    · exact ⟨[], rfl⟩
    · exact ⟨_, List.reverse_concat ..⟩
  rw [Ne, positive?_eq_ok, hu, signed?_minus]
  rintro ⟨hn, hs⟩
  obtain ⟨m, -, hm⟩ := Option.map_eq_some_iff.mp hs
  omega

/-! ### Characters of numerals -/

/-- A numeral without its sign is made of digits and underscores. -/
lemma of_mem_digits? {t : Text} {ds : List Nat} (h : digits? t = some ds) {c : Char} (hc : c ∈ t) :
    isDecimalDigit c ∨ c = '_' := by
  fun_induction digits? t generalizing ds with
  | case1 => cases hc
  | case2 => cases h
  | case3 d v hd =>
    rw [List.mem_singleton.mp hc]
    exact .inl (Option.isSome_of_mem hd)
  | case4 d v t hd ih =>
    obtain ⟨es, hes, -⟩ := Option.map_eq_some_iff.mp h
    rcases List.mem_cons.mp hc with rfl | hc
    · exact .inl (Option.isSome_of_mem hd)
    · rcases List.mem_cons.mp hc with rfl | hc
      · exact .inr rfl
      · exact ih hes hc
  | case5 d v t _ _ hd ih =>
    obtain ⟨es, hes, -⟩ := Option.map_eq_some_iff.mp h
    rcases List.mem_cons.mp hc with rfl | hc
    · exact .inl (Option.isSome_of_mem hd)
    · exact ih hes hc

lemma mem_trimBlank {t : Text} {c : Char} (hc : c ∈ t) (hblank : isBlank c = false) :
    c ∈ trimBlank t := by
  have hdrop {u : Text} (hu : c ∈ u) : c ∈ u.dropWhile isBlank := by
    rw [← List.takeWhile_append_dropWhile (p := isBlank) (l := u)] at hu
    refine (List.mem_append.mp hu).resolve_left fun h => ?_
    rw [List.mem_takeWhile_imp h] at hblank
    cases hblank
  exact List.mem_reverse.mpr (hdrop (List.mem_reverse.mpr (hdrop hc)))

/-- The characters that a text which spells a number may hold. -/
lemma of_mem_signed? {t : Text} {k : Int} (h : signed? t = some k) {c : Char} (hc : c ∈ t) :
    isDecimalDigit c ∨ c = '_' ∨ c = '+' ∨ c = '-' := by
  have hdigit {u : Text} (hu : magnitude? u ≠ none) (hc : c ∈ u) :
      isDecimalDigit c ∨ c = '_' ∨ c = '+' ∨ c = '-' := by
    unfold magnitude? at hu
    cases hds : digits? u with
    | none => simp [hds] at hu
    | some ds => exact (of_mem_digits? hds hc).imp_right .inl
  unfold signed? at h
  split at h
  · rcases List.mem_cons.mp hc with rfl | hc
    · simp
    · exact hdigit (fun hn => by simp [hn] at h) hc
  · rcases List.mem_cons.mp hc with rfl | hc
    · simp
    · exact hdigit (fun hn => by simp [hn] at h) hc
  · exact hdigit (fun hn => by simp [hn] at h) hc

/-- What holds a full stop is no positive number. -/
lemma positive?_of_mem {t : Text} (h : '.' ∈ t) (n : Nat) : positive? t ≠ .ok n := by
  rw [Ne, positive?_eq_ok]
  rintro ⟨-, hs⟩
  rcases of_mem_signed? hs (mem_trimBlank h rfl) with h | h | h | h
  · exact absurd h (by decide)
  · cases h
  · cases h
  · cases h

end Numeral

end AsmLint
