import AsmLint.Proofs.Text.LowerCase
import AsmLint.Recording.Directory
import Mathlib.Data.Bool.AllAny

/-!
# Names of tests

A file is a test if the lower case of its name ends in `.txt`. That is a matter of four characters:
a full stop, and three letters each of which is small or capital.
-/

namespace AsmLint

/-! ### Endings -/

/-- Whether a text is `.txt`, in whatever case. -/
def IsTxt (ext : Text) : Prop :=
  ∃ a b c, ext = ['.', a, b, c] ∧ (a = 't' ∨ a = 'T') ∧ (b = 'x' ∨ b = 'X') ∧ (c = 't' ∨ c = 'T')

/-- A character is its own lower case, or it is the capital letter. -/
lemma eq_or_of_toLower {c a : Char} (h : c.toLower = a) :
    c = a ∨ 65 ≤ c.toNat ∧ c.toNat + 32 = a.toNat := by
  by_cases hupper : c.val ≥ 'A'.val ∧ c.val ≤ 'Z'.val
  · obtain ⟨hlow, hhigh⟩ := hupper
    have hval : a.val = c.val + 32 := h ▸ congrArg Char.val (dif_pos ⟨hlow, hhigh⟩)
    have hadd : a.toNat = (c.toNat + 32) % 2 ^ 32 := by
      rw [Char.toNat, hval, UInt32.toNat_add]
      rfl
    have hlow : 65 ≤ c.toNat := UInt32.le_iff_toNat_le.mp hlow
    have hhigh : c.toNat ≤ 90 := UInt32.le_iff_toNat_le.mp hhigh
    refine .inr ⟨hlow, ?_⟩
    omega
  · exact .inl ((dif_neg hupper).symm.trans h)

lemma isTxt_iff {ext : Text} : IsTxt ext ↔ ext.map Char.toLower = ".txt" := by
  constructor
  · rintro ⟨a, b, c, rfl, rfl | rfl, rfl | rfl, rfl | rfl⟩ <;> rfl
  · intro h
    have hlength : ext.length = 4 := by simpa using congrArg List.length h
    obtain ⟨dot, a, b, c, rfl⟩ := List.length_eq_four.mp hlength
    obtain ⟨hdot, ha, hb, hc⟩ :
        dot.toLower = '.' ∧ a.toLower = 't' ∧ b.toLower = 'x' ∧ c.toLower = 't' := by
      simpa using h
    have hletter {d small capital : Char} (hd : d.toLower = small)
        (hcapital : capital.toNat + 32 = small.toNat) : d = small ∨ d = capital := by
      refine (eq_or_of_toLower hd).imp_right fun hsum => ?_
      rw [← Char.toNat_inj]
      omega
    obtain rfl : dot = '.' := by
      refine (eq_or_of_toLower hdot).resolve_right fun hsum => ?_
      have hvalue : '.'.toNat = 46 := rfl
      omega
    exact ⟨a, b, c, rfl, hletter ha rfl, hletter hb rfl, hletter hc rfl⟩

/-- There is one full stop in it, the first character. -/
lemma IsTxt.exists_letters {ext : Text} (h : IsTxt ext) :
    ∃ letters, ext = '.' :: letters ∧ '.' ∉ letters := by
  obtain ⟨a, b, c, rfl, rfl | rfl, rfl | rfl, rfl | rfl⟩ := h <;> exact ⟨_, rfl, by decide⟩

/-- A test's name is told by its last four characters. -/
theorem isTestName_iff {name : Text} :
    isTestName name ↔ ∃ stem ext, name = stem ++ ext ∧ IsTxt ext := by
  rw [isTestName, decide_eq_true_eq]
  constructor
  · intro h
    exact ⟨_, _, (List.take_append_drop (name.length - 4) name).symm, isTxt_iff.mpr h⟩
  · rintro ⟨stem, ext, rfl, hext⟩
    have hlength : ext.length = 4 := by
      obtain ⟨a, b, c, rfl, -⟩ := hext
      rfl
    rw [List.length_append, hlength, Nat.add_sub_cancel, List.drop_left]
    exact isTxt_iff.mp hext

/-! ### Lower case -/

/-- The lower case of a name ends in `.txt` just where the name does, in whatever case. -/
theorem Lowered.txt_suffix_iff {name lower : Text} (h : Lowered name lower) :
    (".txt" : Text) <:+ lower ↔ ∃ stem ext, name = stem ++ ext ∧ IsTxt ext := by
  constructor
  · rintro ⟨front, rfl⟩
    obtain ⟨stem, ext, rfl, hext⟩ := h.exists_ending (by simp)
    exact ⟨stem, ext, rfl, isTxt_iff.mpr hext⟩
  · rintro ⟨stem, ext, rfl, hext⟩
    obtain ⟨lowerStem, lowerExt, -, hlower, rfl⟩ := h.exists_of_append
    have hascii : ∀ c ∈ ext, c.toNat < 0x80 := by
      rw [← List.all_iff_forall_prop]
      obtain ⟨a, b, c, rfl, rfl | rfl, rfl | rfl, rfl | rfl⟩ := hext <;> decide
    rw [hlower.eq_map_toLower hascii, isTxt_iff.mp hext]
    exact List.suffix_append lowerStem _

end AsmLint
