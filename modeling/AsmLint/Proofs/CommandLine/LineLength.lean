import AsmLint.Proofs.CommandLine.Given
import AsmLint.Proofs.CommandLine.LineSource
import AsmLint.Proofs.Source.Bytes
import AsmLint.Proofs.Text.Replacing

/-!
# Limits on the length of lines

A limit shortens each line where it stands: a command with a limit leaves what the same command
without it leaves on bytes whose lines are shorter. A limit in front of other arguments changes
nothing else that they ask for, and the reference limits are one limit of either kind.
-/

namespace AsmLint

open LineAlphabet Utf8

/-! ### Bytes -/

/-- Bytes with each line cut to its first characters, which are written anew, and with every
terminator as it is. -/
def capLines (n : Nat) (content : List UInt8) : List UInt8 :=
  mapLines (fun line => encode ((decodeLossy line).take n)) content

lemma keepsLines_take {n : Nat} (hn : 1 ≤ n) :
    KeepsLines fun line : List UInt8 => encode ((decodeLossy line).take n) where
  unbroken hu := (hu.decodeLossy.subset (List.take_subset n _)).encode
  eq_nil {u} := by
    rw [encode_eq_nil, List.take_eq_nil_iff, decodeLossy_eq_nil]
    exact or_iff_right (by omega)

/-- Lines that are cut as they are read are the lines of bytes that were cut before. -/
theorem Feed.cut_capLines {n : Nat} (hn : 1 ≤ n) (content : List UInt8) :
    (Feed.ofBytes (capLines n content)).cut none = (Feed.ofBytes content).cut (some n) := by
  have hread (line : List UInt8) :
      decodeLossy (encode ((decodeLossy line).take n)) = (decodeLossy line).take n :=
    decodeLossy_encode _
  rw [cut_none_ofBytes, cut_some_ofBytes, cutLines_decodeLossy, cutLines_decodeLossy, capLines,
    cutLines_mapLines (keepsLines_take hn)]
  simp only [List.map_map, Function.comp_def, hread]

namespace Invocation

lemma check_maxLineLength (i : Invocation) (limit : Option Bound) (f : Feed SystemError) :
    check { i with maxLineLength := limit } f = i.check f := by
  unfold check
  cases i.maxTokens <;> cases f.lines <;> rfl

lemma run_capLines {i : Invocation} (hi : i.maxLineLength = none) {n : Nat} (hn : 1 ≤ n)
    (content : List UInt8) :
    run { i with maxLineLength := some (.number n) } (.ok (.ofBytes content)) =
      i.run (.ok (.ofBytes (capLines n content))) := by
  simp only [run, hi, check_maxLineLength, Feed.cut_capLines hn]

end Invocation

/-! ### Arguments -/

namespace Request

variable {r : Request} {i : Invocation}

lemma invocation_setLimit (h : r.invocation = .ok i) (hr : ¬r.Has (.flag .referenceLimits))
    (b : Bound) :
    (r.setLimit .lineLength b).invocation = .ok { i with maxLineLength := some b } ∧
      (r.setLimit .tokens b).invocation = .ok { i with maxTokens := b } := by
  obtain ⟨hextras, -, rfl⟩ := invocation_eq_ok.mp h
  have hfalse : r.referenceLimits = false := Bool.eq_false_iff.mpr hr
  constructor <;> refine invocation_eq_ok.mpr ⟨hextras, ?_, ?_⟩ <;> simp [setLimit, hfalse]

lemma invocation_setFlag_referenceLimits (h : r.invocation = .ok i)
    (hr : ∀ l, ¬r.Has (.limit l)) :
    (r.setFlag .referenceLimits).invocation =
      .ok { i with maxTokens := .number 10, maxLineLength := some (.number 255) } := by
  obtain ⟨hextras, -, rfl⟩ := invocation_eq_ok.mp h
  have htokens : r.maxTokens = none := by simpa [Has] using hr .tokens
  have hlength : r.maxLineLength = none := by simpa [Has] using hr .lineLength
  refine invocation_eq_ok.mpr ⟨hextras, ?_, ?_⟩
  · simp [setFlag, htokens, hlength]
  · simp only [setFlag, htokens]
    rfl

end Request

namespace Invocation

/-- The reference limits are one limit of either kind, wherever the option for them stands. -/
lemma eq_of_referenceLimits {args : List Text} {i : Invocation} (h : ofArguments args = .ok i)
    (hreference : (Switch.flag .referenceLimits).GivenIn args) :
    i = { i with maxTokens := .number 10, maxLineLength := some (.number 255) } := by
  obtain ⟨r, hr, hi⟩ := ofArguments_eq_ok.mp h
  have href : r.referenceLimits = true := (hr.has_iff _).mpr hreference
  have htokens : r.maxTokens = none := by
    have hlimit := not_conflicting h hreference .tokens
    rw [← hr.has_iff] at hlimit
    simpa [Request.Has] using hlimit
  obtain ⟨-, -, rfl⟩ := Request.invocation_eq_ok.mp hi
  simp only [href, htokens]
  rfl

/-! ### Commands -/

/-- How an accepted command that limits no lines takes limits. -/
structure TakesLimits (args : List Text) (i : Invocation) : Prop where
  /-- A limit on the length in front of the arguments changes nothing else. -/
  length : ∀ v n, Numeral.positive? v = .ok n →
    ofArguments ("--max-line-length" :: v :: args) =
      .ok { i with maxLineLength := some (.number n) }
  /-- Every number can be such a limit that has not too many digits. -/
  numerals : ∀ n, 1 ≤ n → n < 10 ^ Numeral.maxDigits → Numeral.positive? (decimal n) = .ok n
  /-- However the limit is asked for, the command leaves what it leaves without the limit on bytes
  whose lines are cut. -/
  shortens : ∀ capped n content w w' stdin stdin', 1 ≤ n →
    ofArguments capped = .ok { i with maxLineLength := some (.number n) } →
    i.openIn w stdin = .ok (.ofBytes content) →
    i.openIn w' stdin' = .ok (.ofBytes (capLines n content)) →
    Outcome.ofCommand capped w stdin = Outcome.ofCommand args w' stdin'
  /-- The reference limits in front of the arguments are two limits there, -/
  reference : ¬(Switch.limit .tokens).GivenIn args →
    let limited : List Text := "--max-line-length" :: "255" :: "--max-tokens" :: "10" :: args
    let j : Invocation := { i with maxTokens := .number 10, maxLineLength := some (.number 255) }
    ofArguments ("--reference-limits" :: args) = .ok j ∧ ofArguments limited = .ok j ∧
      ∀ w stdin, Outcome.ofCommand ("--reference-limits" :: args) w stdin =
        Outcome.ofCommand limited w stdin
  /-- and so they are wherever they stand. -/
  references : ∀ referred limited j, ofArguments referred = .ok j →
    (Switch.flag .referenceLimits).GivenIn referred →
    ofArguments limited =
      .ok { j with maxTokens := .number 10, maxLineLength := some (.number 255) } →
    ∀ w stdin, Outcome.ofCommand referred w stdin = Outcome.ofCommand limited w stdin

end Invocation

/-- A limit on the length of lines does to a command what shorter lines do, and the reference limits
are a limit of 255 characters and one of 10 tokens. -/
theorem Outcome.ofCommand_limited {args : List Text} {i : Invocation}
    (hargs : Invocation.ofArguments args = .ok i)
    (hlength : ¬(Switch.limit .lineLength).GivenIn args)
    (hreference : ¬(Switch.flag .referenceLimits).GivenIn args) : i.TakesLimits args := by
  obtain ⟨r, hr, hi⟩ := Invocation.ofArguments_eq_ok.mp hargs
  rw [← hr.has_iff] at hlength hreference
  have hsame {first second : List Text} {j : Invocation}
      (hfirst : Invocation.ofArguments first = .ok j)
      (hsecond : Invocation.ofArguments second = .ok j) (w : Workspace)
      (stdin : Feed SystemError) :
      Outcome.ofCommand first w stdin = Outcome.ofCommand second w stdin := by
    rw [Outcome.ofCommand, Outcome.ofCommand, hfirst, hsecond]
  refine ⟨?_, fun n => Numeral.positive?_decimal, ?_, ?_, ?_⟩
  · intro v n hv
    exact Invocation.ofArguments_eq_ok.mpr
      ⟨_, hr.limit hlength hv, (Request.invocation_setLimit hi hreference _).1⟩
  · intro capped n content w w' stdin stdin' hn hcapped hopen hopen'
    have hnone : i.maxLineLength = none := by
      obtain ⟨-, -, rfl⟩ := Request.invocation_eq_ok.mp hi
      have hfalse : r.referenceLimits = false := Bool.eq_false_iff.mpr hreference
      simpa [hfalse, Request.Has] using hlength
    rw [Invocation.ofCommand_opened hargs hopen', ← Invocation.run_capLines hnone hn]
    exact Invocation.ofCommand_opened hcapped hopen
  · intro htokens limited j
    rw [← hr.has_iff] at htokens
    have hfirst : Invocation.ofArguments ("--reference-limits" :: args) = .ok j := by
      refine Invocation.ofArguments_eq_ok.mpr ⟨_, hr.flag .referenceLimits, ?_⟩
      refine Request.invocation_setFlag_referenceLimits hi fun l => ?_
      cases l with
      | tokens => exact htokens
      | lineLength => exact hlength
    have hsecond : Invocation.ofArguments limited = .ok j := by
      have hten : Numeral.positive? "10" = .ok 10 := rfl
      have hmost : Numeral.positive? "255" = .ok 255 := rfl
      have hlength' : ¬(r.setLimit .tokens (.number 10)).Has (.limit .lineLength) := by
        simpa [Request.has_setLimit] using hlength
      refine Invocation.ofArguments_eq_ok.mpr ⟨_, (hr.limit htokens hten).limit hlength' hmost, ?_⟩
      have htokens' := (Request.invocation_setLimit hi hreference (.number 10)).2
      exact (Request.invocation_setLimit htokens' hreference (.number 255)).1
    exact ⟨hfirst, hsecond, hsame hfirst hsecond⟩
  · intro referred limited j hreferred hgiven hlimited
    rw [← Invocation.eq_of_referenceLimits hreferred hgiven] at hlimited
    exact hsame hreferred hlimited

/-- Two characters a line: a line that ends in a carriage return alone in front of an empty one, and
a flaw of two bytes, for which three are written. -/
theorem Outcome.ofCommand_limited_short :
    let args : List Text := ["--strict", "a.txt"]
    let i : Invocation := ⟨"a.txt", .number 10, none, false, false, true⟩
    let content : List UInt8 :=
      [0x53, 0x54, 0x4F, 0x50, 0x0D, 0x0D, 0x0A, 0xE2, 0x82, 0x53, 0x54, 0x0A, 0x41]
    let w (content : List UInt8) : Workspace :=
      ⟨[], [(["a.txt"], .file (.bytes content))], by simp⟩
    Invocation.ofArguments args = .ok i ∧ ¬(Switch.limit .lineLength).GivenIn args ∧
      ¬(Switch.flag .referenceLimits).GivenIn args ∧
      capLines 2 content =
        [0x53, 0x54, 0x0D, 0x0D, 0x0A, 0xEF, 0xBF, 0xBD, 0x53, 0x0A, 0x41] ∧
      ∀ stdin, Outcome.ofCommand ("--max-line-length" :: "2" :: args) (w content) stdin =
        Outcome.ofCommand args (w (capLines 2 content)) stdin := by
  intro args i content w
  have hargs : Invocation.ofArguments args = .ok i := rfl
  have hsort : Argument.sortAll args = .ok [.switch (.flag .strict) none, .word "a.txt"] := rfl
  have hlength : ¬(Switch.limit .lineLength).GivenIn args := by simp [Switch.GivenIn, hsort]
  have hreference : ¬(Switch.flag .referenceLimits).GivenIn args := by
    simp [Switch.GivenIn, hsort]
  have hlimited := Outcome.ofCommand_limited hargs hlength hreference
  refine ⟨hargs, hlength, hreference, by decide, fun stdin => ?_⟩
  exact hlimited.shortens _ 2 content (w content) (w (capLines 2 content)) stdin stdin (by decide)
    (hlimited.length "2" 2 rfl) rfl rfl

end AsmLint
