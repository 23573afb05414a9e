import AsmLint.Proofs.CommandLine.LineSource
import AsmLint.Proofs.Report.Blocks
import AsmLint.Proofs.Source.Bytes

/-!
# Commands on bytes

A line of bytes that has lost its terminator holds no other, however far it is cut, so no line of a
byte source is refused. What a command leaves depends on the bytes, not on where they come from. It
crashes only over a limit that is set to nothing, and for a number of tokens only once there is a
line.
-/

namespace AsmLint

/-! ### Lines of bytes -/

lemma length_rawLines (t : Text) :
    (rawLines t).length = terminatorCount t + if lastLine t = [] then 0 else 1 := by
  rw [← length_cutLines, ← map_dropTerminator_rawLines, List.length_map]

def byteLineCount (content : List UInt8) : Nat :=
  terminatorCount (Utf8.decodeLossy content) +
    if lastLine (Utf8.decodeLossy content) = [] then 0 else 1

lemma rawLines_decodeLossy_eq_nil {content : List UInt8} :
    rawLines (Utf8.decodeLossy content) = [] ↔ content = [] := by
  rw [← Utf8.decodeLossy_eq_nil]
  constructor
  · intro h
    rw [← flatten_pieces isTerminator (Utf8.decodeLossy content)]
    exact congrArg List.flatten h
  · intro h
    rw [h]
    rfl

/-! ### Runs -/

/-- An outcome whose report is made of blocks, one for each of so many lines. -/
def Outcome.ReportsOn {κ : Type} (o : Outcome κ) (count : Nat) : Prop :=
  ∃ blocks : List (List Text), blocks.length = count ∧ o.out.splitOn '\n' = blocks.flatten ++ [[]] ∧
    ∀ x ∈ blocks.zipIdx 1, isValidBlock x.2 x.1 ∨ isErrorBlock x.2 x.1

namespace Invocation

/-- A limit that is set to nothing is asked for: that on the length of lines always is, that on the
number of tokens only in a line. -/
def AsksForNothing (i : Invocation) (content : List UInt8) : Prop :=
  i.maxLineLength = some .nothing ∨ i.maxTokens = .nothing ∧ content ≠ []

/-- An outcome that is a crash over a limit in the given case, else a report on so many lines. -/
structure Settles (o : Outcome Crash) (crashes : Prop) (count : Nat) : Prop where
  crash : ∀ c, o.exit = .crash c ↔ c = .limitNotNumber ∧ crashes
  report : ¬crashes → o.ReportsOn count

lemma settles_crash (count : Nat) : Settles ⟨.crash .limitNotNumber, [], []⟩ True count where
  crash c := by simp [eq_comm]
  report h := absurd trivial h

/-- Lines that end are checked to their end, and what their source is called is not told. -/
lemma conclude_lines (i : Invocation) {o : CheckOptions} (ho : 1 ≤ o.maxTokens) {lines : List Text}
    (h : ∀ line ∈ lines, Unbroken line) :
    let r := Feed.check o ⟨lines, none⟩
    Settles (i.conclude r) False lines.length ∧
      ∀ s, conclude { i with source := s } r = i.conclude r := by
  intro r
  obtain ⟨blocks, hblocks⟩ : ∃ blocks, Run.InBlocks o lines r blocks := by
    rw [show r = _ from Feed.check_unbroken ho h]
    exact ⟨_, inBlocks_lineBlocks ho h⟩
  simp only [conclude, hblocks.finished, implies_true, and_true]
  exact ⟨fun c => by simp, fun _ => ⟨blocks, hblocks.length, hblocks.cut, hblocks.numbered⟩⟩

lemma usesNothing_bytes {i : Invocation} {content : List UInt8} :
    i.UsesNothing (rawLines (Utf8.decodeLossy content)) ↔ i.AsksForNothing content := by
  unfold UsesNothing AsksForNothing
  rw [Ne, rawLines_decodeLossy_eq_nil]

/-- What a run over bytes comes to, wherever the bytes come from. -/
lemma run_bytes {i : Invocation} (hi : i.maxTokens.Positive) (content : List UInt8) :
    Settles (i.run (.ok (.ofBytes content))) (i.AsksForNothing content) (byteLineCount content) ∧
      ∀ s, run { i with source := s } (.ok (.ofBytes content)) =
        i.run (.ok (.ofBytes content)) := by
  have hlines : ∀ raw ∈ rawLines (Utf8.decodeLossy content), IsRawLine raw :=
    fun raw hraw => isRawLine_of_mem_rawLines hraw
  rcases run_cases hi hlines with
    ⟨hnothing, hrun⟩ | ⟨hnumber, o, cut, ho, hcut, hlength, hrun⟩
  · rw [eq_true (usesNothing_bytes.mp hnothing)]
    refine ⟨?_, fun s => (hrun s none).trans (hrun i.source none).symm⟩
    rw [show i.run (.ok (.ofBytes content)) = _ from hrun i.source none]
    exact settles_crash _
  · rw [eq_false (usesNothing_bytes.not.mp hnumber)]
    obtain ⟨hsettles, hsame⟩ := conclude_lines i ho hcut
    rw [show i.run (.ok (.ofBytes content)) = _ from hrun i.source none]
    refine ⟨?_, fun s => (hrun s none).trans (hsame s)⟩
    rw [byteLineCount, ← length_rawLines, ← hlength]
    exact hsettles

end Invocation

/-! ### Commands -/

/-- What a command leaves that checks a file of bytes: a command that checks the same bytes on
standard input leaves the same, there is one, the only crash is over a limit that is set to nothing,
and without a crash every line of the bytes is reported on. -/
theorem Outcome.ofCommand_bytes {args : List Text} {i : Invocation}
    (hargs : Invocation.ofArguments args = .ok i) (hsource : i.source ≠ standardInput)
    {w : Workspace} {content : List UInt8} (hfile : w.file? i.source = some (.bytes content))
    (stdin : Feed SystemError) :
    let o := Outcome.ofCommand args w stdin
    (∃ piped, Invocation.ofArguments piped = .ok { i with source := standardInput }) ∧
      (∀ piped w', Invocation.ofArguments piped = .ok { i with source := standardInput } →
        Outcome.ofCommand piped w' (.ofBytes content) = o) ∧
      (∀ c, o.exit = .crash c ↔ c = .limitNotNumber ∧ i.AsksForNothing content) ∧
      ((∀ c, o.exit ≠ .crash c) → o.ReportsOn (byteLineCount content)) := by
  intro o
  have ho : o = i.run (.ok (.ofBytes content)) := by
    have hopen : i.openIn w stdin = .ok (.ofBytes content) := by
      rw [Invocation.openIn, if_neg hsource]
      exact w.sourceAt_of_file? hfile
    rw [show o = Outcome.ofCommand args w stdin from rfl, Outcome.ofCommand, hargs]
    exact congrArg i.run hopen
  obtain ⟨hsettles, hsame⟩ := Invocation.run_bytes (Invocation.positive_maxTokens hargs) content
  refine ⟨Invocation.exists_standardInput hargs, ?_, ?_, ?_⟩
  · intro piped w' hpiped
    rw [Outcome.ofCommand, hpiped, ho]
    exact hsame standardInput
  · rw [ho]
    exact hsettles.crash
  · rw [ho]
    intro hexit
    refine hsettles.report fun hnothing => hexit _ ((hsettles.crash _).mpr ⟨rfl, hnothing⟩)

/-- A limit that is set to nothing: the file of one line makes the command crash. -/
theorem Outcome.ofCommand_bytes_nothing :
    let args : List Text := ["--max-tokens=--", "a.txt"]
    let i : Invocation := ⟨"a.txt", .nothing, none, false, false, false⟩
    let content : List UInt8 := [0x53, 0x54, 0x4F, 0x50, 0x0A]
    let w : Workspace := ⟨[], [(["a.txt"], .file (.bytes content))], by simp⟩
    Invocation.ofArguments args = .ok i ∧ i.source ≠ standardInput ∧
      w.file? i.source = some (.bytes content) ∧
      ∀ stdin, (Outcome.ofCommand args w stdin).exit = .crash .limitNotNumber := by
  intro args i content w
  have hargs : Invocation.ofArguments args = .ok i := rfl
  have hsource : i.source ≠ standardInput := by decide
  have hfile : w.file? i.source = some (.bytes content) := by decide
  refine ⟨hargs, hsource, hfile, fun stdin => ?_⟩
  obtain ⟨-, -, hcrash, -⟩ := Outcome.ofCommand_bytes hargs hsource hfile stdin
  exact (hcrash _).mpr ⟨rfl, .inr ⟨rfl, List.cons_ne_nil _ _⟩⟩

end AsmLint
