import AsmLint.Proofs.CommandLine.Request
import AsmLint.Recording.Directory

/-!
# A test as the only argument

A test that is handed to the checker as its only argument is the source, unless its path is sorted
as something else than a word. Then the arguments are rejected: a path that ends as the name of a
test does is no option's name, asks for no help and is no limit.
-/

namespace AsmLint

/-! ### Paths of tests -/

lemma toLower_eq_dot {c : Char} (h : c.toLower = '.') : c = '.' := by
  by_cases hupper : c.val ≥ 'A'.val ∧ c.val ≤ 'Z'.val
  · have hval : c.toLower.val = c.val + 32 := congrArg Char.val (dif_pos hupper)
    have hlow : (65 : UInt32) ≤ c.val := hupper.1
    have hhigh : c.val ≤ (90 : UInt32) := hupper.2
    have hdot : c.toLower.val = 46 := congrArg Char.val h
    exfalso
    grind
  · exact (dif_neg hupper).symm.trans h

lemma dot_mem_of_map_toLower {t : Text} (h : t.map Char.toLower = ".txt") : '.' ∈ t := by
  have hdot : '.' ∈ t.map Char.toLower := h ▸ List.mem_cons_self
  obtain ⟨c, hc, hlower⟩ := List.mem_map.mp hdot
  rwa [toLower_eq_dot hlower] at hc

lemma dot_mem_of_isTestName {path : Text} (h : isTestName path) : '.' ∈ path :=
  List.mem_of_mem_drop (dot_mem_of_map_toLower (of_decide_eq_true h))

lemma four_le_length {name : Text} (h : isTestName name) : 4 ≤ name.length := by
  have hlength := congrArg List.length (of_decide_eq_true h)
  rw [List.length_map, List.length_drop] at hlength
  change name.length - (name.length - 4) = 4 at hlength
  omega

lemma isTestName_append (front : Text) {name : Text} (h : 4 ≤ name.length) :
    isTestName (front ++ name) = isTestName name := by
  unfold isTestName
  rw [List.length_append, Nat.add_sub_assoc h, List.drop_length_add_append]

/-- The last four characters of a test's path stand behind any character that is none of theirs. -/
lemma dot_mem_behind {front behind : Text} {c : Char} (h : isTestName (front ++ c :: behind))
    (hc : c.toLower ∉ (".txt" : Text)) : '.' ∈ behind := by
  by_cases hlength : 4 ≤ behind.length
  · rw [List.append_cons, isTestName_append _ hlength] at h
    exact dot_mem_of_isTestName h
  · apply absurd _ hc
    rw [← of_decide_eq_true h, List.drop_append_of_le_length (by simp; omega)]
    simp

/-! ### Names of options -/

namespace Switch

lemma dot_notMem_spelling (s : Switch) : '.' ∉ s.spelling :=
  (by decide : ∀ s ∈ all, '.' ∉ s.spelling) s (mem_all s)

lemma named?_of_dot_mem {name : Text} (h : '.' ∈ name) (s : Switch) : named? name ≠ some s := by
  rw [named?]
  split_ifs with hletter
  · rw [hletter] at h
    exact absurd h (by decide)
  · intro hs
    have hspelling := List.find?_some hs
    rw [decide_eq_true_eq] at hspelling
    exact dot_notMem_spelling s (hspelling ▸ h)

lemma startingWith_of_dot_mem {start : Text} (h : '.' ∈ start) (s : Switch) :
    s ∉ startingWith start := by
  intro hs
  have hstart := (List.mem_filter.mp hs).2
  rw [List.isPrefixOf_iff_prefix] at hstart
  exact dot_notMem_spelling s (hstart.subset h)

end Switch

/-! ### Sorting -/

namespace Argument

/-- Whether an argument is sorted as a word. -/
def IsWord (arg : Text) : Prop := sort arg = .ok (.word arg)

instance (arg : Text) : Decidable (IsWord arg) :=
  inferInstanceAs (Decidable (sort arg = .ok (.word arg)))

/-- Only a hyphen in front makes an argument something else than a word. -/
lemma isWord_of_head? {arg : Text} (h : arg.head? ≠ some '-') : IsWord arg := by
  refine if_pos (.inl ?_)
  intro hone
  have hhead : (arg.take 1).head? = some '-' := congrArg List.head? hone
  rw [List.head?_take, if_neg (by decide)] at hhead
  exact h hhead

lemma cutAtEquals_some {arg name value : Text} (h : cutAtEquals arg = (name, some value)) :
    arg = name ++ '=' :: value := by
  rw [cutAtEquals] at h
  split at h
  · cases h
  · rename_i c t hdrop
    simp only [Prod.mk.injEq, Option.some.injEq] at h
    have hc := List.head?_dropWhile_not (fun c => decide (c ≠ '=')) arg
    rw [hdrop] at hc
    obtain rfl : c = '=' := by simpa using hc
    rw [← h.1, ← h.2, ← hdrop, List.takeWhile_append_dropWhile]

lemma cutAtEquals_none {arg name : Text} (h : cutAtEquals arg = (name, none)) : name = arg := by
  rw [cutAtEquals] at h
  split at h
  · exact (Prod.mk.inj h).1.symm
  · cases h

/-- What a test's path may be sorted as. Where a text is cut off in front, the extension remains. -/
lemma sort_test {path : Text} (htest : isTestName path) {a : Argument} (h : sort path = .ok a) :
    a = .word path ∨ a = .unknown path ∨ (∃ behind, a = .helpLetters behind ∧ '.' ∈ behind) ∨
      ∃ s value, a = .switch s (some value) ∧ '.' ∈ value := by
  have hdot := dot_mem_of_isTestName htest
  have hvalue {name value : Text} (hcut : cutAtEquals path = (name, some value)) : '.' ∈ value := by
    rw [cutAtEquals_some hcut] at htest
    exact dot_mem_behind htest (by decide)
  have hword : withoutName path = .word path ∨ withoutName path = .unknown path := by
    simp only [withoutName]
    split_ifs <;> simp
  revert h
  -- cases 2 and 5 find a name for the whole path, which no name is that holds a dot
  fun_cases sort path with
  | case1 =>
    rintro ⟨⟩
    exact .inl rfl
  | case2 _ s hs => exact absurd hs (Switch.named?_of_dot_mem hdot s)
  | case3 _ _ name value s hs hcut =>
    rintro ⟨⟩
    split_ifs with hname
    · exact .inr (.inr (.inl ⟨value, rfl, hvalue hcut⟩))
    · exact .inr (.inr (.inr ⟨s, value, rfl, hvalue hcut⟩))
  | case4 | case8 =>
    rintro ⟨⟩
    exact hword.imp_right .inl
  | case5 _ _ name value hcut _ s hs _ =>
    rintro ⟨⟩
    cases value with
    | none =>
      rw [cutAtEquals_none hcut] at hs
      exact absurd (hs ▸ List.mem_singleton_self s) (Switch.startingWith_of_dot_mem hdot s)
    | some value => exact .inr (.inr (.inr ⟨s, value, rfl, hvalue hcut⟩))
  | case6 => rintro ⟨⟩
  | case7 _ _ name value hcut _ hletter _ =>
    rintro ⟨⟩
    have hpath : path = ['-'] ++ 'h' :: path.drop 2 := by
      conv_lhs => rw [← List.take_append_drop 2 path, hletter]
      rfl
    rw [hpath] at htest
    exact .inr (.inr (.inl ⟨_, rfl, dot_mem_behind htest (by decide)⟩))

end Argument

/-! ### The invocation -/

lemma Request.readHelpLetters_of_dot_mem {behind : Text} (h : '.' ∈ behind) :
    ∃ e, readHelpLetters behind = .usage e := by
  fun_induction readHelpLetters behind with
  | case1 => simp at h
  | case2 behind _ ih => exact ih (by simpa using h)
  | case3 behind => exact ⟨_, rfl⟩

lemma Request.readLimit_of_dot_mem (r : Request) (l : Limit) {value : Text} (h : '.' ∈ value) :
    ∃ e, r.readLimit l value = .error (.usage e) := by
  have hseparator : value ≠ "--" := by
    rintro rfl
    exact absurd h (by decide)
  rw [readLimit, if_neg hseparator]
  cases hn : Numeral.positive? value with
  | error e => exact ⟨_, rfl⟩
  | ok n => exact absurd hn (Numeral.positive?_of_mem h n)

namespace Invocation

/-- The run over a source that is asked for without any option. -/
def ofSource (source : Text) : Invocation where
  source := source
  maxTokens := .number defaultTokenLimit
  maxLineLength := none
  rejectUnsupported := false
  explain := false
  strict := false

/-- Behind a separator any path is the source. -/
lemma ofArguments_separator (path : Text) : ofArguments ["--", path] = .ok (ofSource path) := rfl

variable {path : Text}

lemma sortAll_test (htest : isTestName path) :
    Argument.sortAll [path] =
      ((Argument.sort path).map ([·])).mapError (⟨path, ·⟩) := by
  have hseparator : path ≠ "--" := by
    rintro rfl
    exact absurd htest (by decide)
  rw [Argument.sortAll, if_neg hseparator]
  cases Argument.sort path <;> rfl

lemma ofArguments_word (htest : isTestName path) (h : Argument.IsWord path) :
    ofArguments [path] = .ok (ofSource path) := by
  rw [ofArguments, sortAll_test htest, h]
  rfl

lemma usage_of_not_isWord (htest : isTestName path) (h : ¬Argument.IsWord path) :
    ∃ e, ofArguments [path] = .error (.usage e) := by
  rw [ofArguments, sortAll_test htest]
  cases hsort : Argument.sort path with
  | error ss => exact ⟨_, rfl⟩
  | ok a =>
    rcases Argument.sort_test htest hsort with
      rfl | rfl | ⟨behind, rfl, hdot⟩ | ⟨s, value, rfl, hdot⟩
    · exact absurd hsort h
    · exact ⟨_, rfl⟩
    · obtain ⟨e, he⟩ := Request.readHelpLetters_of_dot_mem hdot
      exact ⟨e, congrArg Except.error he⟩
    · cases s with
      | help | flag f => exact ⟨_, rfl⟩
      | limit l =>
        obtain ⟨e, he⟩ := Request.readLimit_of_dot_mem {} l hdot
        refine ⟨e, ?_⟩
        simp [Except.map, Except.mapError, Request.read, he]

end Invocation

end AsmLint
