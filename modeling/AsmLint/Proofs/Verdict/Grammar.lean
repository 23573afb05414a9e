import AsmLint.Proofs.Verdict
import Mathlib.Data.List.Nodup
import Mathlib.Data.List.Pairwise

/-!
# The grammar of statements

The grammar says, slot by slot, which words a statement of one to four words must not have. It
speaks of reserved words and of the one vocabulary that a slot lets through, while the rules by
which statements are judged list the vocabularies that a slot keeps out. Because no word is in two
vocabularies both say the same.
-/

namespace AsmLint

/-! ### Reserved words -/

namespace Vocabulary

def reserved : List Text := all.flatMap words

lemma eq_of_mem_words {v v' : Vocabulary} (hv : v ∈ all) (hv' : v' ∈ all) {w : Text}
    (h : w ∈ v.words) (h' : w ∈ v'.words) : v = v' := by
  by_contra hne
  have hdisjoint := (List.nodup_flatMap.mp nodup_reserved).2
  have : Std.Symm (Function.onFun List.Disjoint words) := ⟨fun _ _ hd _ h h' => hd h' h⟩
  exact hdisjoint.forall hv hv' hne h h'

/-- To be in one of the other vocabularies is to be reserved and not in the given one. -/
lemma unionHas_others {v : Vocabulary} (hv : v ∈ all) (w : Text) :
    unionHas (all.filter (· ≠ v)) w = true ↔ w ∈ reserved ∧ w ∉ v.words := by
  simp only [reserved, unionHas_eq_true, List.mem_filter, List.mem_flatMap, decide_eq_true_eq]
  constructor
  · rintro ⟨v', ⟨hv', hne⟩, hw⟩
    exact ⟨⟨v', hv', hw⟩, fun hw' => hne (eq_of_mem_words hv' hv hw hw')⟩
  · rintro ⟨⟨v', hv', hw⟩, hnot⟩
    refine ⟨v', ⟨hv', ?_⟩, hw⟩
    rintro rfl
    exact hnot hw

end Vocabulary

/-! ### Slots -/

namespace Slot

lemma refuses_label (w : Text) : label.refuses w = true ↔ w ∈ Vocabulary.reserved := by
  rw [Vocabulary.reserved, List.mem_flatMap]
  exact Vocabulary.unionHas_eq_true

lemma refuses_memory (w : Text) : memory.refuses w = true ↔ w ∈ Vocabulary.reserved :=
  refuses_label w

lemma refuses_mnemonic (w : Text) :
    mnemonic.refuses w = true ↔ w ∈ Vocabulary.reserved ∧ w ∉ Vocabulary.imperative.words :=
  Vocabulary.unionHas_others (v := .imperative) (by decide) w

lemma refuses_register (w : Text) :
    register.refuses w = true ↔ w ∈ Vocabulary.reserved ∧ w ∉ Vocabulary.registers.words :=
  Vocabulary.unionHas_others (v := .registers) (by decide) w

lemma refuses_loneMnemonic (w : Text) :
    loneMnemonic.refuses w = true ↔ w ≠ "STOP" ∧ w ≠ "LTORG" := by
  simp [loneMnemonic, WordRule.refuses, Vocabulary.unionHas, and_comm]

/-- The violations are those of the slots that refuse their words, in the order of the slots. -/
lemma violations_eq_filterMap (n : Nat) (slots : List Slot) (ws : List Text) :
    violations n slots ws =
      ((slots.zip ws).zipIdx n).filterMap fun x =>
        if x.1.1.refuses x.1.2 then some (x.1.1.violation x.2 x.1.2) else none := by
  fun_induction violations n slots ws with
  | case1 n s slots w ws h ih => simp [h, ih]
  | case2 n s slots w ws h ih => simp [h, ih]
  | case3 slots n ws h =>
    cases slots with
    | nil => rfl
    | cons s slots =>
      cases ws with
      | nil => rfl
      | cons w ws => exact absurd rfl (h s slots w ws rfl)

lemma mem_violations_iff {slots : List Slot} {ws : List Text} {x : Violation} :
    x ∈ violations 0 slots ws ↔
      ∃ (i : Nat) (s : Slot) (w : Text), slots[i]? = some s ∧ ws[i]? = some w ∧
        s.refuses w = true ∧ x = s.violation i w := by
  simp only [violations_eq_filterMap, List.mem_filterMap, List.mem_zipIdx_iff_getElem?,
    Option.ite_none_right_eq_some, Option.some.injEq]
  constructor
  · rintro ⟨⟨⟨s, w⟩, i⟩, hi, hrefuses, rfl⟩
    obtain ⟨hs, hw⟩ := List.getElem?_zip_eq_some.mp hi
    exact ⟨i, s, w, hs, hw, hrefuses, rfl⟩
  · rintro ⟨i, s, w, hs, hw, hrefuses, rfl⟩
    exact ⟨((s, w), i), List.getElem?_zip_eq_some.mpr ⟨hs, hw⟩, hrefuses, rfl⟩

/-- No slot has two violations, and they come in the order of the slots. -/
lemma pairwise_violations (n : Nat) (slots : List Slot) (ws : List Text) :
    ((violations n slots ws).map Violation.slot).Pairwise (· < ·) := by
  rw [List.pairwise_map, violations_eq_filterMap, List.pairwise_filterMap]
  refine (pairwise_zipIdx _ n).imp fun {x y} hlt v hv v' hv' => ?_
  simp only [Option.ite_none_right_eq_some, Option.some.injEq] at hv hv'
  obtain ⟨-, rfl⟩ := hv
  obtain ⟨-, rfl⟩ := hv'
  rw [violation, violation, Option.some_lt_some]
  exact Int.ofNat_lt.mpr hlt

/-- The slot of the given number in statements of so many words. -/
def at? (count number : Nat) : Option Slot := (ofShape? count).bind (·[number]?)

/-- Where each slot stands. -/
lemma at?_eq_some {count number : Nat} {s : Slot} :
    at? count number = some s ↔
      count = 1 ∧ number = 0 ∧ s = loneMnemonic ∨
        (2 ≤ count ∧ count ≤ 4) ∧ number = 0 ∧ s = label ∨
        (2 ≤ count ∧ count ≤ 4) ∧ number = 1 ∧ s = mnemonic ∨
        count = 4 ∧ number = 2 ∧ s = register ∨
        (count = 3 ∨ count = 4) ∧ number = count - 1 ∧ s = memory := by
  rcases count with _ | _ | _ | _ | _ | count
  case zero => simp [at?, ofShape?]
  case succ.succ.succ.succ.succ => simp [at?, ofShape?]
  -- for each shape: the four numbers of its slots, and those behind
  all_goals
    rcases number with _ | _ | _ | _ | number
    all_goals simp [at?, ofShape?, eq_comm]

end Slot

/-- A verdict holds what the slots of the statement refuse, or the shape of the statement if it has
no slots. -/
lemma mem_violations_judge_iff {ws : List Text} {reject : Bool} {x : Violation} :
    x ∈ (judge ws reject).violations ↔
      (∃ (i : Nat) (s : Slot) (w : Text), Slot.at? ws.length i = some s ∧ ws[i]? = some w ∧
        s.refuses w = true ∧ x = s.violation i w) ∨
      (ws.length = 0 ∨ 5 ≤ ws.length) ∧ reject = true ∧ x = shapeViolation ws := by
  have hshape := Slot.ofShape?_isSome (n := ws.length)
  unfold judge Slot.at?
  cases hslots : Slot.ofShape? ws.length with
  | some slots =>
    have hn : 1 ≤ ws.length ∧ ws.length ≤ 4 := hshape.mp (by rw [hslots]; rfl)
    have hsupported : ¬(ws.length = 0 ∨ 5 ≤ ws.length) := by omega
    simp only [Slot.mem_violations_iff, Option.bind_some, hsupported, false_and, or_false]
  | none =>
    have hn : ¬(1 ≤ ws.length ∧ ws.length ≤ 4) := by
      rw [← hshape, hslots]
      simp
    have hunsupported : ws.length = 0 ∨ 5 ≤ ws.length := by omega
    simp only [Option.bind_none, reduceCtorEq, false_and, exists_false, false_or, hunsupported,
      true_and]
    cases reject <;> simp

/-! ### The grammar -/

/-- A word in a slot, as it is held against a statement. -/
def Role.breach (r : Role) (slot : Nat) (w : Text) : Violation :=
  ⟨some slot, r.name, w, r.message⟩

/-- What the grammar holds against a statement of the given words. -/
inductive Violates (ws : List Text) (reject : Bool) : Violation → Prop where
  | lone {w : Text} (hn : ws.length = 1) (hw : ws[0]? = some w) (h : w ≠ "STOP" ∧ w ≠ "LTORG") :
      Violates ws reject (Role.mnemonic.breach 0 w)
  | label {w : Text} (hn : 2 ≤ ws.length ∧ ws.length ≤ 4) (hw : ws[0]? = some w)
      (h : w ∈ Vocabulary.reserved) : Violates ws reject (Role.label.breach 0 w)
  | mnemonic {w : Text} (hn : 2 ≤ ws.length ∧ ws.length ≤ 4) (hw : ws[1]? = some w)
      (h : w ∈ Vocabulary.reserved ∧ w ∉ Vocabulary.imperative.words) :
      Violates ws reject (Role.mnemonic.breach 1 w)
  | register {w : Text} (hn : ws.length = 4) (hw : ws[2]? = some w)
      (h : w ∈ Vocabulary.reserved ∧ w ∉ Vocabulary.registers.words) :
      Violates ws reject (Role.register.breach 2 w)
  | memory {w : Text} (hn : ws.length = 3 ∨ ws.length = 4) (hw : ws[ws.length - 1]? = some w)
      (h : w ∈ Vocabulary.reserved) : Violates ws reject (Role.memory.breach (ws.length - 1) w)
  | shape (hn : ws.length = 0 ∨ 5 ≤ ws.length) (hr : reject = true) :
      Violates ws reject ⟨none, Role.shape.name, joinWith [' '] ws, Role.shape.message⟩

lemma violates_of_mem_judge {ws : List Text} {reject : Bool} {x : Violation}
    (h : x ∈ (judge ws reject).violations) : Violates ws reject x := by
  rcases mem_violations_judge_iff.mp h with ⟨i, s, w, hs, hw, hrefuses, rfl⟩ | ⟨hn, hr, rfl⟩
  · rcases Slot.at?_eq_some.mp hs with ⟨hn, rfl, rfl⟩ | ⟨hn, rfl, rfl⟩ | ⟨hn, rfl, rfl⟩ |
      ⟨hn, rfl, rfl⟩ | ⟨hn, rfl, rfl⟩
    · exact .lone hn hw ((Slot.refuses_loneMnemonic w).mp hrefuses)
    · exact .label hn hw ((Slot.refuses_label w).mp hrefuses)
    · exact .mnemonic hn hw ((Slot.refuses_mnemonic w).mp hrefuses)
    · exact .register hn hw ((Slot.refuses_register w).mp hrefuses)
    · exact .memory hn hw ((Slot.refuses_memory w).mp hrefuses)
  · exact .shape hn hr

lemma mem_judge_of_violates {ws : List Text} {reject : Bool} {x : Violation}
    (h : Violates ws reject x) : x ∈ (judge ws reject).violations := by
  have hslot {i : Nat} {s : Slot} {w : Text} (hs : Slot.at? ws.length i = some s)
      (hw : ws[i]? = some w) (hrefuses : s.refuses w = true) :
      s.violation i w ∈ (judge ws reject).violations :=
    mem_violations_judge_iff.mpr (.inl ⟨i, s, w, hs, hw, hrefuses, rfl⟩)
  cases h with
  | lone hn hw h =>
    have hs := Slot.at?_eq_some.mpr (.inl ⟨hn, rfl, rfl⟩)
    exact hslot hs hw ((Slot.refuses_loneMnemonic _).mpr h)
  | label hn hw h =>
    have hs := Slot.at?_eq_some.mpr (.inr (.inl ⟨hn, rfl, rfl⟩))
    exact hslot hs hw ((Slot.refuses_label _).mpr h)
  | mnemonic hn hw h =>
    have hs := Slot.at?_eq_some.mpr (.inr (.inr (.inl ⟨hn, rfl, rfl⟩)))
    exact hslot hs hw ((Slot.refuses_mnemonic _).mpr h)
  | register hn hw h =>
    have hs := Slot.at?_eq_some.mpr (.inr (.inr (.inr (.inl ⟨hn, rfl, rfl⟩))))
    exact hslot hs hw ((Slot.refuses_register _).mpr h)
  | memory hn hw h =>
    have hs := Slot.at?_eq_some.mpr (.inr (.inr (.inr (.inr ⟨hn, rfl, rfl⟩))))
    exact hslot hs hw ((Slot.refuses_memory _).mpr h)
  | shape hn hr => exact mem_violations_judge_iff.mpr (.inr ⟨hn, hr, rfl⟩)

lemma pairwise_violations_judge (ws : List Text) (reject : Bool) :
    ((judge ws reject).violations.map Violation.slot).Pairwise (· < ·) := by
  unfold judge
  split
  · exact Slot.pairwise_violations 0 _ ws
  · cases reject <;> simp

/-- The verdict on a statement holds what the grammar holds against it, each breach once and in the
order of the slots, and it knows whether the shape of the statement has slots. -/
theorem judge_follows_grammar (ws : List Text) (reject : Bool) :
    let v := judge ws reject
    v.words = ws ∧ (v.shapeSupported = true ↔ 1 ≤ ws.length ∧ ws.length ≤ 4) ∧
      (v.violations.map Violation.slot).Pairwise (· < ·) ∧
      ∀ x, x ∈ v.violations ↔ Violates ws reject x := by
  intro v
  exact ⟨words_judge ws reject, shapeSupported_judge ws reject, pairwise_violations_judge ws reject,
    fun x => ⟨violates_of_mem_judge, mem_judge_of_violates⟩⟩

end AsmLint
