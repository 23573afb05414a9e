import AsmLint.CommandLine.Outcome
import AsmLint.Proofs.CommandLine.Given
import AsmLint.Proofs.CommandLine.SoleArgument
import Mathlib.Data.List.Forall2

/-!
# Choices in any order and spelling

What a user chooses is a source, flags and limits, one of each at most. A command line spells the
choices one after the other: an option by its name or by a start of the name that no other has, the
number of a limit as an argument of its own or attached to the name. Neither the order nor the
spelling changes what is asked for.
-/

namespace AsmLint

/-! ### Choices -/

/-- What a user may choose. -/
inductive Choice where
  | source (name : Text)
  | flag (f : Flag)
  | limit (l : Limit) (n : Nat)
deriving DecidableEq, Repr

namespace Choice

/-- The option that is chosen; there is none for the source. -/
def option : Choice → Option Switch
  | source _ => none
  | flag f => some (.flag f)
  | limit l _ => some (.limit l)

/-- Whether a group of arguments spells a choice. -/
inductive SpelledBy : Choice → List Text → Prop
  /-- A source is standard input, or does not begin with a hyphen. -/
  | source {name : Text} (h : name = standardInput ∨ name.head? ≠ some '-') :
      SpelledBy (source name) [name]
  | flag {f : Flag} {name : Text} (h : (Switch.flag f).NamedBy name) : SpelledBy (flag f) [name]
  /-- A limit and, in an argument of its own, its number. -/
  | apart {l : Limit} {n : Nat} {name value : Text} (h : (Switch.limit l).NamedBy name)
      (hvalue : Numeral.positive? value = .ok n) : SpelledBy (limit l n) [name, value]
  /-- A limit and its number in one argument. -/
  | attached {l : Limit} {n : Nat} {name value : Text} (h : (Switch.limit l).NamedBy name)
      (hvalue : Numeral.positive? value = .ok n) : SpelledBy (limit l n) [name ++ '=' :: value]

/-- A request with one more choice. -/
def addTo (r : Request) : Choice → Request
  | source name => r.withSource name
  | flag f => r.setFlag f
  | limit l n => r.setLimit l (.number n)

lemma source_addTo (r : Request) {c : Choice} (h : c.option ≠ none) :
    (addTo r c).source = r.source := by
  cases c with
  | source name => exact absurd rfl h
  | flag f => exact Request.source_setFlag r f
  | limit l n => exact Request.source_setLimit r l _

/-- Choices of different things may be added in either order. -/
lemma addTo_comm {c d : Choice} (h : c.option ≠ d.option) (r : Request) :
    addTo (addTo r c) d = addTo (addTo r d) c := by
  cases c with
  | source name =>
    cases d with
    | source name' => exact absurd rfl h
    | flag f => exact (Request.passes_withSource name).setFlag r f trivial
    | limit l n => exact (Request.passes_withSource name).setLimit r l _ trivial
  | flag f =>
    cases d with
    | source name => exact ((Request.passes_withSource name).setFlag r f trivial).symm
    | flag g => exact (Request.passes_setFlag f).1.setFlag r g trivial
    | limit l n => exact (Request.passes_setFlag f).1.setLimit r l _ trivial
  | limit l n =>
    cases d with
    | source name => exact ((Request.passes_withSource name).setLimit r l _ trivial).symm
    | flag g => exact ((Request.passes_setFlag g).1.setLimit r l _ trivial).symm
    | limit m k =>
      have hne : Switch.limit m ≠ Switch.limit l := fun heq => h (congrArg some heq.symm)
      exact (Request.passes_setLimit l _).1.setLimit r m _ hne

/-- A group is read as the choice that it spells. A separator behind a source would be dropped, so
there may be none. -/
lemma SpelledBy.read {c : Choice} {group rest : List Text} {later : List Argument}
    (h : c.SpelledBy group) (hrest : Argument.sortAll rest = .ok later)
    (hlater : .separator ∉ later) :
    ∃ as, Argument.sortAll (group ++ rest) = .ok as ∧ .separator ∉ as ∧
      ∀ r : Request, (c.option = none → r.source = none) →
        r.read as = (addTo r c).read later := by
  cases h with
  | @source name h =>
    have hword : Argument.sort name = .ok (.word name) := by
      rcases h with rfl | h
      · rfl
      · exact Argument.isWord_of_head? h
    have hseparator : name ≠ "--" := by
      rintro rfl
      rcases h with h | h
      · exact absurd h (by decide)
      · exact h rfl
    have hsort := Request.sortAll_cons.mpr (.inr ⟨hseparator, _, _, hword, hrest, rfl⟩)
    refine ⟨.word name :: later, hsort, by simpa using hlater, fun r hr => ?_⟩
    have hsource : ¬r.source.isSome := by simp [hr rfl]
    rw [Request.read, if_neg hsource]
    · rfl
    · rintro behind rfl
      exact hlater List.mem_cons_self
  | @flag f name h =>
    refine ⟨_, Argument.sortAll_name h hrest, by simpa using hlater, fun r _ => ?_⟩
    rw [Request.read]
    rfl
  | @apart l n name value h hvalue =>
    have hsort := Argument.sortAll_name h (Argument.sortAll_of_positive? hvalue hrest)
    refine ⟨_, hsort, by simpa using hlater, fun r _ => ?_⟩
    rw [Request.read, Request.readLimit_of_positive? r l hvalue]
    rfl
  | @attached l n name value h hvalue =>
    refine ⟨_, Argument.sortAll_attached h value hrest, by simpa using hlater, fun r _ => ?_⟩
    rw [Request.read, Request.readLimit_of_positive? r l hvalue]
    rfl

/-- Whether arguments spell choices one after the other. -/
def SpellOut (cs : List Choice) (args : List Text) : Prop :=
  ∃ groups, List.Forall₂ SpelledBy cs groups ∧ groups.flatten = args

variable {cs cs' : List Choice} {args args' : List Text}

/-! ### What choices ask for -/

def request (cs : List Choice) : Request := cs.foldl addTo {}

/-- Choices of different things are read one after the other. -/
lemma read_groups {groups : List (List Text)} (h : List.Forall₂ SpelledBy cs groups)
    (hdistinct : (cs.map option).Nodup) :
    ∃ as, Argument.sortAll groups.flatten = .ok as ∧ .separator ∉ as ∧
      ∀ r : Request, (none ∈ cs.map option → r.source = none) →
        r.read as = .ok (cs.foldl addTo r) := by
  induction h with
  | nil => exact ⟨[], rfl, List.not_mem_nil, fun r _ => rfl⟩
  | @cons c group cs groups hgroup _ ih =>
    rw [List.map_cons, List.nodup_cons] at hdistinct
    obtain ⟨later, hsort, hlater, hread⟩ := ih hdistinct.2
    obtain ⟨as, hsort', has, hread'⟩ := hgroup.read hsort hlater
    refine ⟨as, by rwa [List.flatten_cons], has, fun r hr => ?_⟩
    rw [List.foldl_cons, hread' r fun hc => hr (List.mem_cons.mpr (.inl hc.symm))]
    refine hread _ fun hnone => ?_
    -- the source is among the later choices, so this one is none and leaves it open
    have hc : c.option ≠ none := fun hc => hdistinct.1 (hc ▸ hnone)
    rw [source_addTo r hc]
    exact hr (List.mem_cons_of_mem _ hnone)

lemma SpellOut.askedBy (h : SpellOut cs args) (hdistinct : (cs.map option).Nodup) :
    (request cs).AskedBy args := by
  obtain ⟨groups, hgroups, rfl⟩ := h
  obtain ⟨as, hsort, -, hread⟩ := read_groups hgroups hdistinct
  exact ⟨as, hsort, hread {} fun _ => rfl⟩

/-- The order of choices of different things does not matter. -/
lemma request_perm (h : cs.Perm cs') (hdistinct : (cs.map option).Nodup) :
    request cs = request cs' := by
  refine h.foldl_eq' (fun c hc d hd r => ?_) _
  by_cases hcd : c.option = d.option
  · rw [List.inj_on_of_nodup_map hdistinct hc hd hcd]
  · exact addTo_comm hcd r

/-- Any of the choices may be taken for the last. -/
lemma request_erase {c : Choice} (hc : c ∈ cs) (hdistinct : (cs.map option).Nodup) :
    request cs = addTo (request (cs.erase c)) c := by
  have hlast : cs.Perm (cs.erase c ++ [c]) :=
    (List.perm_cons_erase hc).trans (List.perm_append_singleton c _).symm
  rw [request_perm hlast hdistinct, request, List.foldl_append]
  rfl

/-! ### Conflicts -/

/-- Whether the reference limits are chosen together with a limit. -/
def Conflicting (cs : List Choice) : Prop := .flag .referenceLimits ∈ cs ∧ ∃ l n, .limit l n ∈ cs

lemma option_eq_flag {c : Choice} {f : Flag} : c.option = some (.flag f) ↔ c = .flag f := by
  cases c <;> simp [option]

lemma option_eq_limit {c : Choice} {l : Limit} :
    c.option = some (.limit l) ↔ ∃ n, c = .limit l n := by
  cases c <;> simp [option]

lemma has_addTo (r : Request) (c : Choice) (s : Switch) :
    (addTo r c).Has s ↔ c.option = some s ∨ r.Has s := by
  cases c with
  | source name => exact (Request.has_source r (some name) s).trans (by simp [option])
  | flag f => exact (Request.has_setFlag r f s).trans (by simp [option, eq_comm])
  | limit l n => exact (Request.has_setLimit r l _ s).trans (by simp [option, eq_comm])

/-- A request has the marks of the options that are chosen. -/
lemma has_foldl_addTo (cs : List Choice) (r : Request) (s : Switch) :
    (cs.foldl addTo r).Has s ↔ r.Has s ∨ ∃ c ∈ cs, c.option = some s := by
  induction cs generalizing r with
  | nil => simp
  | cons c cs ih =>
    rw [List.foldl_cons, ih, has_addTo]
    simp [or_assoc, or_left_comm]

lemma extras_foldl_addTo (cs : List Choice) (r : Request) :
    (cs.foldl addTo r).extras = r.extras := by
  induction cs generalizing r with
  | nil => rfl
  | cons c cs ih =>
    have hc : (addTo r c).extras = r.extras := by
      cases c with
      | source name => rfl
      | flag f => cases f <;> rfl
      | limit l n => cases l <;> rfl
    rw [List.foldl_cons, ih, hc]

lemma has_request (cs : List Choice) (s : Switch) :
    (request cs).Has s ↔ ∃ c ∈ cs, c.option = some s :=
  (has_foldl_addTo cs {} s).trans (or_iff_right (Request.not_has_empty s))

lemma conflicting_iff (cs : List Choice) :
    Conflicting cs ↔
      (request cs).Has (.flag .referenceLimits) ∧ ∃ l, (request cs).Has (.limit l) := by
  simp only [Conflicting, has_request, option_eq_flag, option_eq_limit, exists_eq_right]
  refine and_congr_right fun _ => exists_congr fun l => ?_
  constructor
  · rintro ⟨n, h⟩
    exact ⟨_, h, n, rfl⟩
  · rintro ⟨_, h, n, rfl⟩
    exact ⟨n, h⟩

end Choice

namespace Request

variable {r : Request}

lemma invocation_eq_error (hextras : r.extras = [])
    (h : r.Has (.flag .referenceLimits) ∧ ∃ l, r.Has (.limit l)) :
    r.invocation = .error .conflictingLimits := by
  rw [invocation, if_neg (not_not.mpr hextras), if_pos ((conflicts_iff r).mpr h)]

lemma exists_invocation (hextras : r.extras = [])
    (h : ¬(r.Has (.flag .referenceLimits) ∧ ∃ l, r.Has (.limit l))) :
    ∃ i, r.invocation = .ok i :=
  ⟨_, invocation_eq_ok.mpr
    ⟨hextras, Bool.eq_false_iff.mpr (mt (conflicts_iff r).mp h), rfl⟩⟩

lemma AskedBy.ofArguments_eq {args : List Text} (h : r.AskedBy args) :
    Invocation.ofArguments args = r.invocation.mapError .usage := by
  obtain ⟨as, hsort, hread⟩ := h
  simp only [Invocation.ofArguments, hsort, hread]

end Request

/-! ### Invocations -/

/-- Whether an invocation is as it was chosen. -/
def Invocation.Grants (i : Invocation) : Choice → Prop
  | .source name => i.source = name
  | .flag .referenceLimits => i.maxTokens = .number 10 ∧ i.maxLineLength = some (.number 255)
  | .flag .rejectUnsupported => i.rejectUnsupported = true
  | .flag .strict => i.strict = true
  | .flag .explain => i.explain = true
  | .limit .tokens n => i.maxTokens = .number n
  | .limit .lineLength n => i.maxLineLength = some (.number n)

namespace Choice

variable {cs cs' : List Choice} {args args' : List Text}

/-- The last choice is granted. -/
lemma grants_addTo {r : Request} {c : Choice} {i : Invocation}
    (h : (addTo r c).invocation = .ok i) : i.Grants c := by
  obtain ⟨-, hlimits, rfl⟩ := Request.invocation_eq_ok.mp h
  cases c with
  | source name => rfl
  | flag f =>
    cases f with
    | referenceLimits =>
      have hnone : r.maxTokens = none ∧ r.maxLineLength = none := by
        simpa [addTo, Request.setFlag] using hlimits
      exact ⟨congrArg (·.getD (.number defaultTokenLimit)) hnone.1, rfl⟩
    | rejectUnsupported | strict | explain => rfl
  | limit l n =>
    cases l with
    | tokens => rfl
    | lineLength =>
      have hfalse : r.referenceLimits = false := by
        simpa [addTo, Request.setLimit] using hlimits
      exact if_neg (Bool.eq_false_iff.mp hfalse)

/-- All choices of different things are granted. -/
lemma grants_of_mem {i : Invocation} (h : (request cs).invocation = .ok i)
    (hdistinct : (cs.map option).Nodup) {c : Choice} (hc : c ∈ cs) : i.Grants c := by
  rw [request_erase hc hdistinct] at h
  exact grants_addTo h

lemma SpellOut.ofArguments_eq (h : SpellOut cs args) (hdistinct : (cs.map option).Nodup) :
    Invocation.ofArguments args = (request cs).invocation.mapError .usage :=
  (h.askedBy hdistinct).ofArguments_eq

end Choice

/-- Choices of different things may be spelled in any way and in any order: what comes of it is the
same. They are all granted, unless the reference limits are chosen together with a limit. -/
theorem Outcome.ofCommand_rearranged {cs cs' : List Choice} {args args' : List Text}
    (h : Choice.SpellOut cs args) (h' : Choice.SpellOut cs' args') (hsame : cs.Perm cs')
    (hdistinct : (cs.map Choice.option).Nodup) (w : Workspace) (stdin : Feed SystemError) :
    Outcome.ofCommand args w stdin = Outcome.ofCommand args' w stdin ∧
      (Choice.Conflicting cs →
        Outcome.ofCommand args w stdin = (Stop.usage .conflictingLimits).outcome) ∧
      (¬Choice.Conflicting cs →
        ∃ i, Invocation.ofArguments args = .ok i ∧ ∀ c ∈ cs, i.Grants c) := by
  have hextras : (Choice.request cs).extras = [] := Choice.extras_foldl_addTo cs {}
  have hargs := h.ofArguments_eq hdistinct
  have hargs' := h'.ofArguments_eq ((hsame.map _).nodup_iff.mp hdistinct)
  rw [← Choice.request_perm hsame hdistinct] at hargs'
  refine ⟨?_, fun hconflict => ?_, fun hconflict => ?_⟩
  · rw [Outcome.ofCommand, Outcome.ofCommand, hargs, hargs']
  · rw [Outcome.ofCommand, hargs,
      Request.invocation_eq_error hextras ((Choice.conflicting_iff cs).mp hconflict)]
    rfl
  · obtain ⟨i, hi⟩ :=
      Request.exists_invocation hextras (mt (Choice.conflicting_iff cs).mpr hconflict)
    refine ⟨i, by rw [hargs, hi]; rfl, fun c hc => ?_⟩
    exact Choice.grants_of_mem hi hdistinct hc

/-- A source between a shortened flag and a shortened limit, whose number is attached to it with a
sign and an underscore; and the source in front of the names in full, with the number in an argument
of its own. -/
theorem Outcome.ofCommand_rearranged_shortened :
    let cs : List Choice := [.flag .rejectUnsupported, .source "a=b.txt", .limit .tokens 12]
    let cs' : List Choice := [.source "a=b.txt", .limit .tokens 12, .flag .rejectUnsupported]
    let args : List Text := ["--rej", "a=b.txt", "--max-t=+1_2"]
    let args' : List Text := ["a=b.txt", "--max-tokens", " 12", "--reject-unsupported"]
    Choice.SpellOut cs args ∧ Choice.SpellOut cs' args' ∧ cs.Perm cs' ∧
      (cs.map Choice.option).Nodup ∧ ¬Choice.Conflicting cs ∧
      ∀ w stdin, Outcome.ofCommand args w stdin = Outcome.ofCommand args' w stdin := by
  intro cs cs' args args'
  have hnumber : Numeral.positive? "+1_2" = .ok 12 ∧ Numeral.positive? " 12" = .ok 12 := ⟨rfl, rfl⟩
  have h : Choice.SpellOut cs args := by
    refine ⟨[["--rej"], ["a=b.txt"], [("--max-t" : Text) ++ '=' :: ("+1_2" : Text)]], ?_, rfl⟩
    exact .cons (.flag (by decide)) (.cons (.source (.inr (by decide)))
      (.cons (.attached (by decide) hnumber.1) .nil))
  have h' : Choice.SpellOut cs' args' := by
    refine ⟨[["a=b.txt"], ["--max-tokens", " 12"], ["--reject-unsupported"]], ?_, rfl⟩
    exact .cons (.source (.inr (by decide))) (.cons (.apart (by decide) hnumber.2)
      (.cons (.flag (by decide)) .nil))
  have hsame : cs.Perm cs' := by decide
  have hdistinct : (cs.map Choice.option).Nodup := by decide
  have hconflict : ¬Choice.Conflicting cs := fun hc => absurd hc.1 (by decide)
  exact ⟨h, h', hsame, hdistinct, hconflict, fun w stdin =>
    (Outcome.ofCommand_rearranged h h' hsame hdistinct w stdin).1⟩

end AsmLint
