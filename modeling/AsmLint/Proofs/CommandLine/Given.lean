import AsmLint.Proofs.CommandLine.Naming
import AsmLint.Proofs.CommandLine.Request

/-!
# Options that are given

Every option that is given leaves its mark on the request, wherever it stands among the arguments
and however it is spelled, and nothing else leaves that mark. So an invocation is strict just when
the option for it was given, and none comes of the reference limits together with a limit of its
own. An option in front of arguments adds its mark to what they ask for.
-/

namespace AsmLint

/-! ### Marks of options -/

namespace Request

/-- Whether an option has left its mark. -/
def Has (r : Request) : Switch → Prop
  | .help => False
  | .limit .tokens => r.maxTokens.isSome = true
  | .limit .lineLength => r.maxLineLength.isSome = true
  | .flag .referenceLimits => r.referenceLimits = true
  | .flag .rejectUnsupported => r.rejectUnsupported = true
  | .flag .strict => r.strict = true
  | .flag .explain => r.explain = true

lemma not_has_empty (s : Switch) : ¬({} : Request).Has s := by
  cases s with
  | help => exact id
  | limit l => cases l <;> simp [Has]
  | flag f => cases f <;> simp [Has]

/-- What speaks against an invocation is the reference limits beside a limit. -/
lemma conflicts_iff (r : Request) :
    (r.referenceLimits && (r.maxTokens.isSome || r.maxLineLength.isSome)) = true ↔
      r.Has (.flag .referenceLimits) ∧ ∃ l, r.Has (.limit l) := by
  rw [Bool.and_eq_true, Bool.or_eq_true]
  refine and_congr_right fun _ => ?_
  constructor
  · rintro (h | h)
    · exact ⟨.tokens, h⟩
    · exact ⟨.lineLength, h⟩
  · rintro ⟨l, h⟩
    cases l with
    | tokens => exact .inl h
    | lineLength => exact .inr h

lemma has_leave (r : Request) (arg : Text) (s : Switch) : (r.leave arg).Has s ↔ r.Has s := by
  cases s with
  | help => rfl
  | limit l => cases l <;> rfl
  | flag f => cases f <;> rfl

lemma has_source (r : Request) (w : Option Text) (s : Switch) :
    { r with source := w }.Has s ↔ r.Has s := by
  cases s with
  | help => rfl
  | limit l => cases l <;> rfl
  | flag f => cases f <;> rfl

lemma has_setFlag (r : Request) (f : Flag) (s : Switch) :
    (r.setFlag f).Has s ↔ s = .flag f ∨ r.Has s := by
  cases s with
  | help => simp [Has]
  | limit l => cases l <;> cases f <;> simp [Has, setFlag]
  | flag g => cases g <;> cases f <;> simp [Has, setFlag]

lemma has_setLimit (r : Request) (l : Limit) (b : Bound) (s : Switch) :
    (r.setLimit l b).Has s ↔ s = .limit l ∨ r.Has s := by
  cases s with
  | help => simp [Has]
  | limit m => cases m <;> cases l <;> simp [Has, setLimit]
  | flag f => cases f <;> cases l <;> simp [Has, setLimit]

lemma has_readLimit {r r' : Request} {l : Limit} {value : Text} (h : r.readLimit l value = .ok r')
    (s : Switch) : r'.Has s ↔ s = .limit l ∨ r.Has s := by
  obtain ⟨b, -, rfl⟩ := readLimit_eq_ok h
  exact has_setLimit r l b s

/-- After all arguments are read just those options have left their marks that are among them. -/
theorem has_read {r r' : Request} {as : List Argument} (h : r.read as = .ok r') (s : Switch) :
    r'.Has s ↔ r.Has s ∨ ∃ value, .switch s value ∈ as := by
  -- one case for each way of reading the first argument; in those left out reading stops
  fun_induction Request.read r as with
  | case1 r =>
    obtain rfl := Except.ok.inj h
    simp
  | case2 r arg rest ih => simp [ih h, has_leave]
  | case4 r w rest _ ih => simp [ih h, has_leave]
  | case5 r w _ rest ih => simp [ih h, has_source]
  | case6 r w _ rest _ ih => simp [ih h, has_source]
  | case7 r rest _ ih => simp [ih h, has_leave]
  | case8 r _ w rest ih => simp [ih h, has_source]
  | case9 r _ rest _ ih => simp [ih h, has_source]
  | case11 r f rest ih =>
    simp only [ih h, has_setFlag, List.mem_cons, Argument.switch.injEq, exists_or,
      exists_and_left, exists_eq, and_true, or_assoc, or_left_comm]
  | case13 r l value rest r₁ hl ih =>
    simp only [ih h, has_readLimit hl, List.mem_cons, Argument.switch.injEq, exists_or,
      exists_and_left, exists_eq, and_true, or_assoc, or_left_comm]
  | case15 r l value rest r₁ hl ih =>
    simp only [ih h, has_readLimit hl, List.mem_cons, Argument.switch.injEq, exists_or,
      exists_and_left, exists_eq, and_true, or_assoc, or_left_comm, reduceCtorEq, false_or]
  | _ => simp at h

lemma readLimit_ne_help (r : Request) (l : Limit) (value : Text) :
    r.readLimit l value ≠ .error .help := by
  unfold readLimit
  split_ifs
  · simp
  · cases Numeral.positive? value <;> simp

/-- Reading ends with help only where an option asks for it. -/
theorem help_of_read {r : Request} {as : List Argument} (h : r.read as = .error .help) :
    .switch .help none ∈ as ∨ ∃ behind, .helpLetters behind ∈ as := by
  fun_induction Request.read r as with
  | case1 r => cases h
  | case2 r arg rest ih => simpa using ih h
  | case3 r behind rest => exact .inr ⟨behind, List.mem_cons_self⟩
  | case4 r w rest _ ih => simpa using ih h
  | case5 r w _ rest ih => simpa using ih h
  | case6 r w _ rest _ ih => simpa using ih h
  | case7 r rest _ ih => simpa using ih h
  | case8 r _ w rest ih => simpa using ih h
  | case9 r _ rest _ ih => simpa using ih h
  | case10 r rest => exact .inl List.mem_cons_self
  | case11 r f rest ih => simpa using ih h
  | case12 r l value rest e hl | case14 r l value rest e hl =>
    obtain rfl := Except.error.inj h
    exact absurd hl (readLimit_ne_help r l value)
  | case13 r l value rest r₁ hl ih => simpa using ih h
  | case15 r l value rest r₁ hl ih => simpa using ih h
  | case16 | case17 => cases h

end Request

/-! ### Arguments -/

/-- Whether an option is among the arguments, in whatever spelling and at whatever place. -/
def Switch.GivenIn (s : Switch) (args : List Text) : Prop :=
  ∃ as, Argument.sortAll args = .ok as ∧ ∃ value, .switch s value ∈ as

/-- Whether help is asked for among the arguments, by name or by letter. -/
def AsksForHelp (args : List Text) : Prop :=
  ∃ as, Argument.sortAll args = .ok as ∧
    (.switch .help none ∈ as ∨ ∃ behind, .helpLetters behind ∈ as)

/-- Just those options leave their marks that are given. -/
lemma Request.AskedBy.has_iff {r : Request} {args : List Text} (h : r.AskedBy args) (s : Switch) :
    r.Has s ↔ s.GivenIn args := by
  obtain ⟨as, hsort, hread⟩ := h
  have hgiven : s.GivenIn args ↔ ∃ value, .switch s value ∈ as := by
    simp only [Switch.GivenIn, hsort, Except.ok.injEq, exists_eq_left']
  rw [hgiven, Request.has_read hread]
  simp only [Request.not_has_empty, false_or]

/-! ### Options in front of arguments -/

/-- What spells a positive number does not begin as an option does. -/
lemma sort_of_positive? {v : Text} {n : Nat} (h : Numeral.positive? v = .ok n) :
    v ≠ "--" ∧ Argument.sort v = .ok (.word v) := by
  cases v with
  | nil => exact ⟨by decide, rfl⟩
  | cons c t =>
    have hc : c ≠ '-' := by
      rintro rfl
      exact Numeral.positive?_minus t n h
    have hfirst : (c :: t).take 1 ≠ "-" := fun heq => hc (List.cons.inj heq).1
    refine ⟨fun heq => hc (List.cons.inj heq).1, ?_⟩
    rw [Argument.sort, if_pos (.inl hfirst)]

namespace Argument

variable {s : Switch} {name v : Text} {n : Nat} {rest : List Text} {as : List Argument}

lemma sortAll_name (h : s.NamedBy name) (hrest : sortAll rest = .ok as) :
    sortAll (name :: rest) = .ok (.switch s none :: as) :=
  Request.sortAll_cons.mpr (.inr ⟨name_ne_separator h, _, _, sort_name h, hrest, rfl⟩)

lemma sortAll_attached (h : s.NamedBy name) (value : Text) (hrest : sortAll rest = .ok as) :
    sortAll ((name ++ '=' :: value) :: rest) = .ok (.switch s (some value) :: as) :=
  Request.sortAll_cons.mpr
    (.inr ⟨name_append_ne h _ (by decide), _, _, sort_attached h value, hrest, rfl⟩)

lemma sortAll_of_positive? (hv : Numeral.positive? v = .ok n) (hrest : sortAll rest = .ok as) :
    sortAll (v :: rest) = .ok (.word v :: as) :=
  Request.sortAll_cons.mpr
    (.inr ⟨(sort_of_positive? hv).1, _, _, (sort_of_positive? hv).2, hrest, rfl⟩)

end Argument

lemma Request.readLimit_of_positive? (r : Request) (l : Limit) {v : Text} {n : Nat}
    (h : Numeral.positive? v = .ok n) : r.readLimit l v = .ok (r.setLimit l (.number n)) := by
  rw [readLimit, if_neg (sort_of_positive? h).1, h]

namespace Request.AskedBy

variable {r : Request} {args : List Text}

lemma limit (h : r.AskedBy args) {l : Limit} (hl : ¬r.Has (.limit l)) {v : Text} {n : Nat}
    (hv : Numeral.positive? v = .ok n) :
    (r.setLimit l (.number n)).AskedBy ((Switch.limit l).spelling :: v :: args) := by
  have hgiven := mt (h.has_iff _).mpr hl
  obtain ⟨as, hsort, hread⟩ := h
  have hbehind : ∀ s value, .switch s value ∈ as → s ≠ .limit l := by
    rintro s value hmem rfl
    exact hgiven ⟨as, hsort, value, hmem⟩
  refine ⟨.switch (.limit l) none :: .word v :: as, ?_, ?_⟩
  · exact Argument.sortAll_name (Switch.namedBy_spelling _) (Argument.sortAll_of_positive? hv hsort)
  · obtain ⟨hpasses, hkeeps⟩ := passes_setLimit l (.number n)
    rw [read, readLimit_of_positive? _ l hv]
    exact (hpasses.read hbehind (.inr hkeeps)).trans (by rw [hread]; rfl)

lemma flag (h : r.AskedBy args) (f : Flag) :
    (r.setFlag f).AskedBy ((Switch.flag f).spelling :: args) := by
  obtain ⟨as, hsort, hread⟩ := h
  refine ⟨.switch (.flag f) none :: as, ?_, ?_⟩
  · exact Argument.sortAll_name (Switch.namedBy_spelling _) hsort
  · obtain ⟨hpasses, hkeeps⟩ := passes_setFlag f
    rw [read]
    exact (hpasses.read (fun _ _ _ => trivial) (.inr hkeeps)).trans (by rw [hread]; rfl)

end Request.AskedBy

/-! ### Invocations -/

namespace Invocation

/-- An invocation is strict just when the option for it is given. -/
theorem strict_iff {args : List Text} {i : Invocation} (h : ofArguments args = .ok i) :
    i.strict = true ↔ (Switch.flag .strict).GivenIn args := by
  obtain ⟨r, hr, hi⟩ := ofArguments_eq_ok.mp h
  obtain ⟨-, -, rfl⟩ := Request.invocation_eq_ok.mp hi
  exact hr.has_iff (.flag .strict)

/-- No run comes of the reference limits together with a limit of its own. -/
theorem not_conflicting {args : List Text} {i : Invocation} (h : ofArguments args = .ok i)
    (hreference : (Switch.flag .referenceLimits).GivenIn args) (l : Limit) :
    ¬(Switch.limit l).GivenIn args := by
  obtain ⟨r, hr, hi⟩ := ofArguments_eq_ok.mp h
  obtain ⟨-, hlimits, -⟩ := Request.invocation_eq_ok.mp hi
  rw [← hr.has_iff] at hreference ⊢
  intro hl
  rw [(Request.conflicts_iff r).mpr ⟨hreference, l, hl⟩] at hlimits
  cases hlimits

/-- Arguments that come to no run are rejected, unless they ask for help. -/
theorem exists_usage {args : List Text} (h : ∀ i, ofArguments args ≠ .ok i)
    (hhelp : ¬AsksForHelp args) : ∃ e, ofArguments args = .error (.usage e) := by
  unfold ofArguments at h ⊢
  cases hsort : Argument.sortAll args with
  | error a => exact ⟨_, rfl⟩
  | ok as =>
    simp only [hsort] at h ⊢
    cases hread : Request.read {} as with
    | error stop =>
      cases stop with
      | help => exact absurd ⟨as, hsort, Request.help_of_read hread⟩ hhelp
      | usage e => exact ⟨e, rfl⟩
    | ok r =>
      simp only [hread] at h ⊢
      cases hi : r.invocation with
      | error e => exact ⟨e, rfl⟩
      | ok i => exact absurd (by rw [hi]; rfl) (h i)

end Invocation

end AsmLint
