import AsmLint.CommandLine.Argument
import Mathlib.Data.List.Nodup
import Mathlib.Data.List.TakeWhile

/-!
# Names of options

An option may be named by a start of its name that no other name has. The start is sorted as the
whole name is, alone and with a value attached.
-/

namespace AsmLint

/-! ### Names -/

namespace Switch

/-- Whether a text names an option: it is the name in full, or a start of it that reaches beyond the
hyphens and begins no other name. -/
def NamedBy (s : Switch) (name : Text) : Prop :=
  name = s.spelling ∨
    2 < name.length ∧ name <+: s.spelling ∧ ∀ t ∈ all, name <+: t.spelling → t = s

instance (s : Switch) (name : Text) : Decidable (s.NamedBy name) :=
  inferInstanceAs (Decidable (_ ∨ _))

lemma namedBy_spelling (s : Switch) : s.NamedBy s.spelling := .inl rfl

lemma take_two_spelling (s : Switch) : s.spelling.take 2 = "--" := by
  cases s with
  | help => rfl
  | limit l => cases l <;> rfl
  | flag f => cases f <;> rfl

lemma two_lt_length_spelling (s : Switch) : 2 < s.spelling.length := by
  cases s with
  | help => decide
  | limit l => cases l <;> decide
  | flag f => cases f <;> decide

lemma equals_notMem_spelling (s : Switch) : '=' ∉ s.spelling :=
  (by decide : ∀ s ∈ all, '=' ∉ s.spelling) s (mem_all s)

lemma nodup_all : all.Nodup := by decide

/-- No option's name begins with that of another. -/
lemma eq_of_spelling_prefix {s t : Switch} (h : s.spelling <+: t.spelling) : t = s :=
  (by decide : ∀ s ∈ all, ∀ t ∈ all, s.spelling <+: t.spelling → t = s)
    s (mem_all s) t (mem_all t) h

namespace NamedBy

variable {s : Switch} {name : Text}

lemma isPrefix (h : s.NamedBy name) : name <+: s.spelling := by
  rcases h with rfl | ⟨-, h, -⟩
  · exact List.prefix_refl _
  · exact h

lemma unique (h : s.NamedBy name) {t : Switch} (ht : name <+: t.spelling) : t = s := by
  rcases h with rfl | ⟨-, -, h⟩
  · exact eq_of_spelling_prefix ht
  · exact h t (mem_all t) ht

lemma two_lt_length (h : s.NamedBy name) : 2 < name.length := by
  rcases h with rfl | ⟨h, -⟩
  · exact two_lt_length_spelling s
  · exact h

lemma take_two (h : s.NamedBy name) (behind : Text) : (name ++ behind).take 2 = "--" := by
  obtain ⟨rest, hrest⟩ := h.isPrefix
  have hlength := Nat.le_of_lt h.two_lt_length
  rw [← take_two_spelling s, ← hrest, List.take_append_of_le_length hlength,
    List.take_append_of_le_length hlength]

lemma equals_notMem (h : s.NamedBy name) : '=' ∉ name :=
  fun hmem => equals_notMem_spelling s (h.isPrefix.subset hmem)

lemma startingWith_eq (h : s.NamedBy name) : startingWith name = [s] := by
  have hnodup : (startingWith name).Nodup := nodup_all.filter _
  refine List.perm_singleton.mp
    ((List.perm_ext_iff_of_nodup hnodup (List.nodup_singleton s)).mpr fun t => ?_)
  rw [startingWith, List.mem_filter, List.isPrefixOf_iff_prefix, List.mem_singleton]
  constructor
  · exact fun ht => h.unique ht.2
  · rintro rfl
    exact ⟨mem_all t, h.isPrefix⟩

lemma ne_helpLetter (h : s.NamedBy name) : name ≠ helpLetter := by
  rintro rfl
  exact absurd h.two_lt_length (by decide)

lemma eq_of_named? (h : s.NamedBy name) {t : Switch} (ht : named? name = some t) : t = s := by
  rw [named?, if_neg h.ne_helpLetter] at ht
  have hspelling := List.find?_some ht
  rw [decide_eq_true_eq] at hspelling
  exact h.unique (hspelling ▸ List.prefix_refl _)

end NamedBy

end Switch

/-! ### Sorting -/

namespace Argument

lemma cutAtEquals_of_notMem {name : Text} (h : '=' ∉ name) : cutAtEquals name = (name, none) := by
  have hall : ∀ c ∈ name, decide (c ≠ '=') = true :=
    fun c hc => decide_eq_true fun heq => h (heq ▸ hc)
  rw [cutAtEquals, List.dropWhile_eq_nil_iff.mpr hall]

lemma cutAtEquals_append {name : Text} (h : '=' ∉ name) (value : Text) :
    cutAtEquals (name ++ '=' :: value) = (name, some value) := by
  have hall : ∀ c ∈ name, decide (c ≠ '=') = true :=
    fun c hc => decide_eq_true fun heq => h (heq ▸ hc)
  rw [cutAtEquals, List.dropWhile_append_of_pos hall, List.takeWhile_append_of_pos hall]
  simp

variable {s : Switch} {name : Text}

/-- What begins with a name of an option is longer than what is sorted for want of a name. -/
lemma name_append_ne (h : s.NamedBy name) (behind : Text) {t : Text} (ht : t.length ≤ 2) :
    name ++ behind ≠ t := by
  rintro rfl
  rw [List.length_append] at ht
  exact absurd h.two_lt_length (by omega)

lemma not_word_append (h : s.NamedBy name) (behind : Text) :
    ¬((name ++ behind).take 1 ≠ "-" ∨ name ++ behind = "-") := by
  rintro (hne | heq)
  · apply hne
    calc (name ++ behind).take 1 = ((name ++ behind).take 2).take 1 := by rw [List.take_take]; rfl
      _ = "-" := by rw [h.take_two behind]; rfl
  · exact name_append_ne h behind (by decide) heq

/-- A name stands for its option. -/
lemma sort_name (h : s.NamedBy name) : sort name = .ok (.switch s none) := by
  have hword := not_word_append h []
  have htwo := h.take_two []
  rw [List.append_nil] at hword htwo
  rw [sort, if_neg hword]
  cases hnamed : Switch.named? name with
  | some t => rw [h.eq_of_named? hnamed]
  | none => simp only [cutAtEquals_of_notMem h.equals_notMem, htwo, if_pos, h.startingWith_eq]

/-- A value behind an equals sign is attached to the option that stands in front of it. -/
lemma sort_attached (h : s.NamedBy name) (value : Text) :
    sort (name ++ '=' :: value) = .ok (.switch s (some value)) := by
  have hnone : Switch.named? (name ++ '=' :: value) = none := by
    rw [Switch.named?, if_neg (name_append_ne h _ (by decide)), List.find?_eq_none]
    intro t _ ht
    have hequals : '=' ∈ name ++ '=' :: value := by simp
    exact t.equals_notMem_spelling (of_decide_eq_true ht ▸ hequals)
  rw [sort, if_neg (not_word_append h _)]
  simp only [hnone, cutAtEquals_append h.equals_notMem]
  cases hnamed : Switch.named? name with
  | some t => simp only [h.eq_of_named? hnamed, if_neg h.ne_helpLetter]
  | none => simp only [h.take_two, if_pos, h.startingWith_eq]

lemma name_ne_separator (h : s.NamedBy name) : name ≠ "--" := by
  rintro rfl
  exact absurd h.two_lt_length (by decide)

end Argument

end AsmLint
