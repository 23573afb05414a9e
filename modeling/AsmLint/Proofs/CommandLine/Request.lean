import AsmLint.CommandLine.Invocation
import AsmLint.Proofs.Numeral

/-!
# What arguments ask for

Arguments change a request in four ways only, so what outlasts those four holds of the request in
the end: limits that are numbers are at least 1. The source may be exchanged for another, and
nothing else is read in a different way.
-/

namespace AsmLint

/-! ### Limits -/

/-- Whether a limit that is a number is at least 1. -/
def Bound.Positive (b : Bound) : Prop := ∀ n, b = .number n → 1 ≤ n

namespace Request

/-- A limit is set to a positive number or to nothing. -/
lemma readLimit_eq_ok {r r' : Request} {l : Limit} {value : Text}
    (h : r.readLimit l value = .ok r') : ∃ b : Bound, b.Positive ∧ r' = r.setLimit l b := by
  unfold readLimit at h
  split_ifs at h with hvalue
  · exact ⟨.nothing, by simp [Bound.Positive], (Except.ok.inj h).symm⟩
  · cases hn : Numeral.positive? value with
    | error e => simp [hn] at h
    | ok n =>
      simp only [hn] at h
      refine ⟨.number n, ?_, (Except.ok.inj h).symm⟩
      rintro m ⟨⟩
      exact (Numeral.positive?_eq_ok.mp hn).1

/-! ### Reading -/

/-- What outlasts all that an argument may do holds of the request in the end. -/
theorem read_preserves {P : Request → Prop}
    (leave : ∀ r arg, P r → P (r.leave arg))
    (source : ∀ (r : Request) w, P r → P { r with source := some w })
    (setFlag : ∀ r f, P r → P (r.setFlag f))
    (setLimit : ∀ (r : Request) l (b : Bound), b.Positive → P r → P (r.setLimit l b))
    {r r' : Request} {as : List Argument} (hr : P r) (h : r.read as = .ok r') : P r' := by
  have readLimit {r r' : Request} {l value} (hr : P r) (h : r.readLimit l value = .ok r') :
      P r' := by
    obtain ⟨b, hb, rfl⟩ := readLimit_eq_ok h
    exact setLimit r l b hb hr
  -- one case for each way of reading the first argument; in those left out reading stops
  fun_induction Request.read r as with
  | case1 r => exact Except.ok.inj h ▸ hr
  | case2 r arg rest ih => exact ih (leave r arg hr) h
  | case4 r w rest _ ih => exact ih (leave r w hr) h
  | case5 r w _ rest ih => exact ih (source r w hr) h
  | case6 r w _ rest _ ih => exact ih (source r w hr) h
  | case7 r rest _ ih => exact ih (leave r _ hr) h
  | case8 r _ w rest ih => exact ih (source r w hr) h
  | case9 r _ rest _ ih => exact ih (source r _ hr) h
  | case11 r f rest ih => exact ih (setFlag r f hr) h
  | case13 r l value rest r₁ hl ih => exact ih (readLimit hr hl) h
  | case15 r l value rest r₁ hl ih => exact ih (readLimit hr hl) h
  | _ => simp at h

/-! ### Changes that pass through -/

lemma read_word {r : Request} (hr : r.source.isSome) (w : Text) (as : List Argument) :
    r.read (.word w :: as) = (r.leave w).read as := by
  conv =>
    lhs
    unfold read
  exact if_pos hr

lemma read_separator {r : Request} (hr : r.source.isSome) (as : List Argument) :
    r.read (.separator :: as) = (r.leave "--").read as := by
  conv =>
    lhs
    unfold read
  exact if_pos hr

/-- Whether a change to requests is all the same before and after what arguments do that hold no
options but the given ones. -/
structure Passes (g : Request → Request) (given : Switch → Prop) : Prop where
  isSome_source : ∀ r, r.source.isSome → (g r).source.isSome
  leave : ∀ r arg, (g r).leave arg = g (r.leave arg)
  setFlag : ∀ r f, given (.flag f) → (g r).setFlag f = g (r.setFlag f)
  setLimit : ∀ r l b, given (.limit l) → (g r).setLimit l b = g (r.setLimit l b)

/-- Whether a change to requests has nothing to do with the source. -/
def KeepsSource (g : Request → Request) : Prop :=
  ∀ (r : Request) w, { g r with source := w } = g { r with source := w }

variable {g : Request → Request} {given : Switch → Prop}

lemma KeepsSource.source_eq (hg : KeepsSource g) (r : Request) : (g r).source = r.source :=
  (congrArg Request.source (hg r r.source)).symm

lemma Passes.readLimit (hg : Passes g given) {l : Limit} (hl : given (.limit l)) (r : Request)
    (value : Text) : (g r).readLimit l value = (r.readLimit l value).map g := by
  unfold Request.readLimit
  split_ifs
  · simp [hg.setLimit r l _ hl, Except.map]
  · cases Numeral.positive? value <;> simp [hg.setLimit r l _ hl, Except.map]

lemma source_setFlag (r : Request) (f : Flag) : (r.setFlag f).source = r.source := by
  cases f <;> rfl

lemma source_setLimit (r : Request) (l : Limit) (b : Bound) :
    (r.setLimit l b).source = r.source := by
  cases l <;> rfl

/-- A change that passes through is made before arguments are read or after, unless the arguments
may yet name the source that it is about. -/
theorem Passes.read (hg : Passes g given) {r : Request} {as : List Argument}
    (has : ∀ s value, .switch s value ∈ as → given s)
    (hsource : r.source.isSome ∨ KeepsSource g) : (g r).read as = (r.read as).map g := by
  have tail {a : Argument} {as} (h : ∀ s value, .switch s value ∈ a :: as → given s) :
      ∀ s value, Argument.switch s value ∈ as → given s :=
    fun s value hmem => h s value (List.mem_cons_of_mem a hmem)
  have head {s : Switch} {value as}
      (h : ∀ t v, Argument.switch t v ∈ .switch s value :: as → given t) : given s :=
    h s value List.mem_cons_self
  have none {r : Request} (hr : ¬r.source.isSome) (hsource : r.source.isSome ∨ KeepsSource g) :
      KeepsSource g ∧ ¬(g r).source.isSome := by
    have hkeeps := hsource.resolve_left hr
    exact ⟨hkeeps, by rwa [hkeeps.source_eq]⟩
  -- the source is yet unnamed only in the cases 5, 6, 8 and 9, where the first word becomes it
  fun_induction Request.read r as with
  | case1 r => rfl
  | case2 r arg rest ih =>
    rw [Request.read, hg.leave]
    exact ih (tail has) hsource
  | case3 | case10 => rfl
  | case4 r w rest hr ih =>
    rw [read_word (hg.isSome_source r hr), hg.leave]
    exact ih (tail has) hsource
  | case5 r w hr rest ih =>
    obtain ⟨hkeeps, hgr⟩ := none hr hsource
    rw [Request.read, if_neg hgr, hkeeps]
    exact ih (tail (tail has)) (.inr hkeeps)
  | case6 r w hr rest hrest ih =>
    obtain ⟨hkeeps, hgr⟩ := none hr hsource
    rw [Request.read, if_neg hgr, hkeeps]
    · exact ih (tail has) (.inr hkeeps)
    · exact hrest
  | case7 r rest hr ih =>
    rw [read_separator (hg.isSome_source r hr), hg.leave]
    exact ih (tail has) hsource
  | case8 r hr w rest ih =>
    obtain ⟨hkeeps, hgr⟩ := none hr hsource
    rw [Request.read, if_neg hgr, hkeeps]
    exact ih (tail (tail has)) (.inr hkeeps)
  | case9 r hr rest hrest ih =>
    obtain ⟨hkeeps, hgr⟩ := none hr hsource
    rw [Request.read, if_neg hgr, hkeeps]
    · exact ih (tail has) (.inr hkeeps)
    · exact hrest
  | case11 r f rest ih =>
    rw [Request.read, hg.setFlag r f (head has)]
    exact ih (tail has) (by rwa [source_setFlag])
  | case12 r l value rest e hl | case14 r l value rest e hl =>
    rw [Request.read, hg.readLimit (head has), hl]
    rfl
  | case13 r l value rest r₁ hl ih =>
    rw [Request.read, hg.readLimit (head has), hl]
    obtain ⟨b, -, rfl⟩ := readLimit_eq_ok hl
    exact ih (tail has) (by rwa [source_setLimit])
  | case15 r l value rest r₁ hl ih =>
    rw [Request.read, hg.readLimit (head has), hl]
    obtain ⟨b, -, rfl⟩ := readLimit_eq_ok hl
    exact ih (tail (tail has)) (by rwa [source_setLimit])
  | case16 r l rest hrest =>
    rw [Request.read]
    · rfl
    · exact hrest
  | case17 r t value rest ht =>
    rw [Request.read]
    · rfl
    · exact ht

lemma passes_setLimit (l : Limit) (b : Bound) :
    Passes (·.setLimit l b) (· ≠ .limit l) ∧ KeepsSource (·.setLimit l b) := by
  refine ⟨⟨?_, ?_, ?_, ?_⟩, fun r w => by cases l <;> rfl⟩
  · intro r hr
    rwa [source_setLimit]
  · intro r arg
    cases l <;> rfl
  · intro r f _
    cases l <;> cases f <;> rfl
  · intro r m c hm
    cases l <;> cases m <;> first | rfl | exact absurd rfl hm

lemma passes_setFlag (f : Flag) :
    Passes (·.setFlag f) (fun _ => True) ∧ KeepsSource (·.setFlag f) := by
  refine ⟨⟨?_, ?_, ?_, ?_⟩, fun r w => by cases f <;> rfl⟩
  · intro r hr
    rwa [source_setFlag]
  · intro r arg
    cases f <;> rfl
  · intro r g _
    cases f <;> cases g <;> rfl
  · intro r l b _
    cases f <;> cases l <;> rfl

/-! ### Behind the source -/

/-- The same request for another source. -/
def withSource (r : Request) (s : Text) : Request := { r with source := some s }

lemma passes_withSource (s : Text) : Passes (·.withSource s) fun _ => True where
  isSome_source _ _ := rfl
  leave _ _ := rfl
  setFlag r f _ := by cases f <;> rfl
  setLimit r l b _ := by cases l <;> rfl

/-- Behind the source arguments are read in the same way, whatever the source is. -/
lemma read_withSource {r : Request} (hr : r.source.isSome) (as : List Argument) (s : Text) :
    (r.withSource s).read as = (r.read as).map (·.withSource s) :=
  (passes_withSource s).read (fun _ _ _ => trivial) (.inl hr)

/-! ### Standard input as the source -/

/-- An argument is no separator, and as a word it stays as it is. -/
lemma sort_eq_ok {arg : Text} {a : Argument} (h : Argument.sort arg = .ok a) :
    a ≠ .separator ∧ ∀ w, a = .word w → w = arg := by
  have hname : Argument.withoutName arg ≠ .separator ∧
      ∀ w, Argument.withoutName arg = .word w → w = arg := by
    unfold Argument.withoutName
    split_ifs <;> simp [eq_comm]
  revert h
  fun_cases Argument.sort arg with
  | case1 =>
    rintro ⟨⟩
    simp [eq_comm]
  | case2 | case5 | case7 =>
    rintro ⟨⟩
    simp
  | case3 =>
    rintro ⟨⟩
    split_ifs <;> simp
  | case4 | case8 =>
    rintro ⟨⟩
    exact hname
  | case6 => rintro ⟨⟩

/-- The arguments behind the first are sorted apart from it, unless it is the separator. -/
lemma sortAll_cons {arg : Text} {rest : List Text} {as : List Argument} :
    Argument.sortAll (arg :: rest) = .ok as ↔
      (arg = "--" ∧ as = .separator :: rest.map .word) ∨
        (arg ≠ "--" ∧ ∃ a later, Argument.sort arg = .ok a ∧ Argument.sortAll rest = .ok later ∧
          as = a :: later) := by
  rw [Argument.sortAll]
  split_ifs with harg
  · simp [harg, eq_comm]
  · simp only [harg, false_and, ne_eq, not_false_eq_true, true_and, false_or]
    cases Argument.sort arg <;> cases Argument.sortAll rest <;> simp [eq_comm]

/-- The first word is the source, and what is read behind it does not depend on it. -/
lemma read_first_word {r : Request} (hr : r.source = none) (as : List Argument) :
    ∃ later, ∀ w, r.read (.word w :: as) = (r.withSource w).read later := by
  have hnone : ¬r.source.isSome := by simp [hr]
  by_cases hs : ∃ rest, as = .separator :: rest
  · obtain ⟨rest, rfl⟩ := hs
    refine ⟨rest, fun w => ?_⟩
    rw [read, if_neg hnone]
    rfl
  · refine ⟨as, fun w => ?_⟩
    rw [read, if_neg hnone]
    · rfl
    · exact fun rest h => hs ⟨rest, h⟩

lemma read_first_separator {r : Request} (hr : r.source = none) :
    r.read [.separator] = .ok (r.withSource defaultSource) ∧
      ∀ w as, r.read (.separator :: .word w :: as) = (r.withSource w).read as := by
  have hnone : ¬r.source.isSome := by simp [hr]
  refine ⟨?_, fun w as => ?_⟩ <;> rw [read, if_neg hnone] <;> simp [read, withSource]

lemma read_withSource_eq_ok {r r' : Request} {w : Text} {as : List Argument}
    (h : (r.withSource w).read as = .ok r') (s : Text) :
    (r.withSource s).read as = .ok (r'.withSource s) := by
  have hread := read_withSource (r := r.withSource w) rfl as s
  rw [h] at hread
  exact hread

lemma read_separator_standardInput {r r' : Request} (hr : r.source = none) {rest : List Text}
    (h : r.read (.separator :: rest.map .word) = .ok r') :
    r.read (.separator :: (standardInput :: rest.tail).map .word) =
      .ok (r'.withSource standardInput) := by
  rw [List.map_cons, (read_first_separator hr).2]
  cases rest with
  | nil =>
    rw [List.map_nil, (read_first_separator hr).1] at h
    obtain rfl := Except.ok.inj h
    rfl
  | cons w rest =>
    rw [List.map_cons, (read_first_separator hr).2] at h
    exact read_withSource_eq_ok h _

/-- What an option may do that is read in front of the source: it acts alone or takes a value. -/
lemma read_option {r r' : Request} (hr : r.source = none) {a : Argument} {as : List Argument}
    (hs : a ≠ .separator) (hw : ∀ w, a ≠ .word w) (h : r.read (a :: as) = .ok r') :
    ∃ r₁ : Request, r₁.source = none ∧
      ((∀ later, r.read (a :: later) = r₁.read later) ∨
        ∃ v rest, as = .word v :: rest ∧
          ∀ later, r.read (a :: .word v :: later) = r₁.read later) := by
  have hlimit {r₁ : Request} {l v} (hl : r.readLimit l v = .ok r₁) : r₁.source = none := by
    obtain ⟨b, -, rfl⟩ := readLimit_eq_ok hl
    cases l <;> exact hr
  cases a with
  | word w => exact absurd rfl (hw w)
  | separator => exact absurd rfl hs
  | helpLetters behind => cases h
  | unknown text => exact ⟨r.leave text, hr, .inl fun later => rfl⟩
  | switch t value =>
    cases t with
    | help => cases value <;> cases h
    | flag f =>
      cases value with
      | none => exact ⟨r.setFlag f, by cases f <;> exact hr, .inl fun later => rfl⟩
      | some v => cases h
    | limit l =>
      cases value with
      | some v =>
        rw [read] at h
        cases hl : r.readLimit l v with
        | error e => simp [hl] at h
        | ok r₁ => exact ⟨r₁, hlimit hl, .inl fun later => by rw [read, hl]⟩
      | none =>
        obtain ⟨v, rest, rfl⟩ : ∃ v rest, as = .word v :: rest := by
          cases as with
          | nil => cases h
          | cons a as => cases a with
            | word v => exact ⟨v, as, rfl⟩
            | _ => cases h
        rw [read] at h
        cases hl : r.readLimit l v with
        | error e => simp [hl] at h
        | ok r₁ => exact ⟨r₁, hlimit hl, .inr ⟨v, rest, rfl, fun later => by rw [read, hl]⟩⟩

lemma sortAll_standardInput {rest : List Text} {later : List Argument}
    (h : Argument.sortAll rest = .ok later) :
    Argument.sortAll (standardInput :: rest) = .ok (.word standardInput :: later) :=
  sortAll_cons.mpr (.inr ⟨by decide, _, _, rfl, h, rfl⟩)

/-- Arguments that are read can be changed so that they ask for the same from standard input. -/
lemma exists_sortAll_withSource (args : List Text) {as : List Argument} {r r' : Request}
    (hsort : Argument.sortAll args = .ok as) (hr : r.source = none) (h : r.read as = .ok r') :
    ∃ piped as', Argument.sortAll piped = .ok as' ∧
      r.read as' = .ok (r'.withSource standardInput) := by
  induction hn : args.length using Nat.strongRecOn generalizing args as r r' with
  | ind n ih =>
    cases args with
    | nil =>
      obtain rfl := Except.ok.inj hsort
      obtain rfl := Except.ok.inj h
      refine ⟨[standardInput], _, sortAll_standardInput rfl, ?_⟩
      simp [read, hr, withSource]
    | cons arg rest =>
      rw [List.length_cons] at hn
      obtain ⟨rfl, rfl⟩ | ⟨harg, a, later, ha, hlater, rfl⟩ := sortAll_cons.mp hsort
      · exact ⟨"--" :: standardInput :: rest.tail, _, sortAll_cons.mpr (.inl ⟨rfl, rfl⟩),
          read_separator_standardInput hr h⟩
      by_cases hw : ∃ w, a = .word w
      · obtain ⟨w, rfl⟩ := hw
        obtain ⟨behind, hbehind⟩ := read_first_word hr later
        rw [hbehind] at h
        refine ⟨standardInput :: rest, _, sortAll_standardInput hlater, ?_⟩
        rw [hbehind]
        exact read_withSource_eq_ok h _
      -- an option stays in front, with its value if it takes one
      obtain ⟨r₁, hr₁, hstep | ⟨v, behind, rfl, hstep⟩⟩ :=
        read_option hr (sort_eq_ok ha).1 (fun w hwa => hw ⟨w, hwa⟩) h
      · rw [hstep] at h
        obtain ⟨piped, as', hpiped, hread⟩ := ih rest.length (by omega) rest hlater hr₁ h rfl
        refine ⟨arg :: piped, a :: as', ?_, (hstep as').trans hread⟩
        exact sortAll_cons.mpr (.inr ⟨harg, a, as', ha, hpiped, rfl⟩)
      · cases rest with
        | nil => cases hlater
        | cons value rest =>
          rw [List.length_cons] at hn
          obtain ⟨-, hsep⟩ | ⟨hvalue, b, later, hb, hlater, heq⟩ := sortAll_cons.mp hlater
          · cases hsep
          obtain ⟨rfl, rfl⟩ := List.cons.inj heq
          rw [hstep] at h
          obtain ⟨piped, as', hpiped, hread⟩ := ih rest.length (by omega) rest hlater hr₁ h rfl
          have hpiped' := sortAll_cons.mpr (.inr ⟨hvalue, _, as', hb, hpiped, rfl⟩)
          refine ⟨arg :: value :: piped, _, ?_, (hstep as').trans hread⟩
          exact sortAll_cons.mpr (.inr ⟨harg, a, _, ha, hpiped', rfl⟩)

lemma invocation_withSource (r : Request) (s : Text) :
    (r.withSource s).invocation = r.invocation.map fun i => { i with source := s } := by
  unfold invocation withSource
  split_ifs <;> rfl

/-- The run that a request comes to, and what may not speak against it. -/
lemma invocation_eq_ok {r : Request} {i : Invocation} :
    r.invocation = .ok i ↔
      r.extras = [] ∧
        (r.referenceLimits && (r.maxTokens.isSome || r.maxLineLength.isSome)) = false ∧
        i = {
          source := r.source.getD defaultSource
          maxTokens := r.maxTokens.getD (.number defaultTokenLimit)
          maxLineLength :=
            if r.referenceLimits then some (.number referenceLineLength) else r.maxLineLength
          rejectUnsupported := r.rejectUnsupported
          explain := r.explain
          strict := r.strict } := by
  unfold invocation
  by_cases hextras : r.extras = []
  · rw [if_neg (not_not.mpr hextras)]
    by_cases hlimits : (r.referenceLimits && (r.maxTokens.isSome || r.maxLineLength.isSome)) = true
    · rw [if_pos hlimits, hlimits]
      simp
    · rw [if_neg hlimits, Except.ok.injEq, eq_comm]
      exact ⟨fun h => ⟨hextras, Bool.eq_false_iff.mpr hlimits, h⟩, fun h => h.2.2⟩
  · rw [if_pos hextras]
    simp [hextras]

/-- Whether a request is what arguments ask for. -/
def AskedBy (r : Request) (args : List Text) : Prop :=
  ∃ as, Argument.sortAll args = .ok as ∧ read {} as = .ok r

end Request

/-! ### Invocations -/

namespace Invocation

lemma ofArguments_eq_ok {args : List Text} {i : Invocation} :
    ofArguments args = .ok i ↔ ∃ r : Request, r.AskedBy args ∧ r.invocation = .ok i := by
  unfold ofArguments Request.AskedBy
  cases hsort : Argument.sortAll args with
  | error e => simp
  | ok as =>
    cases hread : Request.read {} as with
    | error e => simp [hread]
    | ok r => cases hi : r.invocation <;> simp [hread, hi, Except.mapError]

/-- A number of tokens that is asked for is at least 1. -/
lemma positive_maxTokens {args : List Text} {i : Invocation} (h : ofArguments args = .ok i) :
    i.maxTokens.Positive := by
  obtain ⟨r, ⟨as, -, hread⟩, hi⟩ := ofArguments_eq_ok.mp h
  have hr : ∀ b, r.maxTokens = some b → b.Positive := by
    refine Request.read_preserves (P := fun r => ∀ b, r.maxTokens = some b → b.Positive)
      (fun _ _ hr => hr) (fun _ _ hr => hr) ?_ ?_ (by simp) hread
    · rintro r f hr
      cases f <;> exact hr
    · rintro r l b hb hr
      cases l with
      | tokens =>
        rintro _ ⟨⟩
        exact hb
      | lineLength => exact hr
  obtain ⟨-, -, rfl⟩ := Request.invocation_eq_ok.mp hi
  simp only
  cases hb : r.maxTokens with
  | none =>
    rintro n ⟨⟩
    decide
  | some b => exact hr b hb

/-- What is asked for of one source can be asked for of standard input. -/
theorem exists_standardInput {args : List Text} {i : Invocation} (h : ofArguments args = .ok i) :
    ∃ piped, ofArguments piped = .ok { i with source := standardInput } := by
  obtain ⟨r, ⟨as, hsort, hread⟩, hi⟩ := ofArguments_eq_ok.mp h
  obtain ⟨piped, as', hsort', hread'⟩ := Request.exists_sortAll_withSource args hsort rfl hread
  refine ⟨piped, ofArguments_eq_ok.mpr ⟨_, ⟨as', hsort', hread'⟩, ?_⟩⟩
  rw [Request.invocation_withSource, hi]
  rfl

end Invocation

end AsmLint
