import AsmLint.Workspace.Open
import AsmLint.Proofs.Statement
import AsmLint.Proofs.Text.Decoding

/-!
# Sources of bytes

The bytes of a source may be cut into lines and words before they are read or after. So bytes that
are no characters stay in their line and in their word.
-/

namespace AsmLint

open LineAlphabet Utf8

/-! ### Lines -/

lemma Unbroken.decodeLossy {bs : List UInt8} (h : Unbroken bs) : Unbroken (decodeLossy bs) :=
  ⟨fun hc => h.1 ((mem_decodeLossy (b := 13) (by decide)).mp hc),
    fun hl => h.2 ((mem_decodeLossy (b := 10) (by decide)).mp hl)⟩

lemma Unbroken.encode {t : Text} (h : Unbroken t) : Unbroken (encode t) := by
  refine ⟨fun hc => h.1 ?_, fun hl => h.2 ?_⟩
  · rw [← decodeLossy_encode t]
    exact (mem_decodeLossy (b := 13) (by decide)).mpr hc
  · rw [← decodeLossy_encode t]
    exact (mem_decodeLossy (b := 10) (by decide)).mpr hl

/-- A terminator is read as a terminator, and it is read apart from what stands on either side. -/
lemma Ends.decodeLossy {e bs : List UInt8} (he : Ends e bs) (u : List UInt8) :
    Ends (decodeLossy e) (decodeLossy bs) ∧
      Utf8.decodeLossy (u ++ e ++ bs) =
        Utf8.decodeLossy u ++ Utf8.decodeLossy e ++ Utf8.decodeLossy bs := by
  rw [List.append_assoc, List.append_assoc]
  cases he with
  | lf => exact ⟨.lf _, decodeLossy_append_ascii u (by decide) bs⟩
  | crlf =>
    refine ⟨.crlf _, (decodeLossy_append_ascii u (by decide) (10 :: bs)).trans ?_⟩
    rw [decodeLossy_cons_ascii (by decide)]
    rfl
  | cr h =>
    refine ⟨.cr fun hc => h ?_, decodeLossy_append_ascii u (by decide) bs⟩
    exact head?_decodeLossy (b := 10) (by decide) hc

/-- The lines of a text that was read are the lines of the bytes, read one by one. -/
theorem cutLines_decodeLossy (bs : List UInt8) :
    cutLines (decodeLossy bs) = (cutLines bs).map decodeLossy := by
  induction bs using lines_induction with
  | last u hu =>
    rw [cutLines_unbroken hu, cutLines_unbroken hu.decodeLossy]
    simp only [decodeLossy_eq_nil]
    split_ifs <;> rfl
  | line u e t hu he ih =>
    obtain ⟨he', hread⟩ := he.decodeLossy u
    rw [hread, cutLines_append hu.decodeLossy he', cutLines_append hu he, List.map_cons, ih]

/-! ### Words -/

/-- The longest runs of bytes other than space and tab. -/
def byteWords (bs : List UInt8) : List (List UInt8) :=
  (bs.splitOnP fun b => b = 0x20 || b = 0x09).filter (· ≠ [])

/-- The words of a text that was read are the words of the bytes, read one by one. -/
theorem words_decodeLossy (bs : List UInt8) :
    words (decodeLossy bs) = (byteWords bs).map decodeLossy := by
  have hascii : ∀ c, isDelimiter c → c.toNat < 0x80 := by
    intro c hc
    rcases show c = ' ' ∨ c = '\t' by simpa [isDelimiter, delimiters] using hc with rfl | rfl <;>
      decide
  have hbyte : (fun b : UInt8 => isDelimiter (Char.ofNat b.toNat)) =
      fun b : UInt8 => (b = 0x20 || b = 0x09 : Bool) := by
    funext b
    rw [Bool.eq_iff_iff]
    simp only [isDelimiter, delimiters, List.contains_eq_mem, List.mem_cons, List.not_mem_nil,
      or_false, Bool.or_eq_true, decide_eq_true_eq]
    exact or_congr ⟨fun h => ofNat_byte_inj (b := 0x20) h, fun h => h ▸ rfl⟩
      ⟨fun h => ofNat_byte_inj (b := 0x09) h, fun h => h ▸ rfl⟩
  rw [words, splitOnP_decodeLossy hascii, hbyte, byteWords, List.filter_map]
  congr 2
  funext p
  simp

/-! ### Feeds -/

lemma lineLimit?_none : lineLimit? none = .ok none := rfl

lemma lineLimit?_some {n : Int} (hn : 1 ≤ n) : lineLimit? (some n) = .ok (some n.toNat) :=
  if_neg (by omega)

/-- Bytes are checked line by line. -/
lemma Feed.cut_none_ofBytes (bs : List UInt8) :
    (Feed.ofBytes bs).cut none = ⟨cutLines (decodeLossy bs), none⟩ := by
  rw [← map_dropTerminator_rawLines]
  rfl

/-- A limit shortens each line, and leaves as many. -/
lemma Feed.cut_some_ofBytes (n : Nat) (bs : List UInt8) :
    (Feed.ofBytes bs).cut (some n) = ⟨(cutLines (decodeLossy bs)).map (·.take n), none⟩ := by
  rw [← map_dropTerminator_rawLines, List.map_map]
  rfl

/-! ### Files -/

/-- A file that a path leads to is what is opened under the path. -/
lemma Workspace.sourceAt_of_file? {w : Workspace} {path : Text} {f : StoredFile}
    (h : w.file? path = some f) : w.sourceAt path = f.feed.mapError (⟨path, ·⟩) := by
  unfold Workspace.file? at h
  unfold Workspace.sourceAt
  split at h
  · rename_i l g hr
    rw [hr, Option.some.inj h]
  · simp at h

/-- The lines of a file of bytes, under a limit that is accepted. -/
lemma Workspace.linesAt_bytes {w : Workspace} {path : Text} {content : List UInt8}
    (h : w.file? path = some (.bytes content)) {limit : Option Int} {n : Option Nat}
    (hlimit : lineLimit? limit = .ok n) :
    w.linesAt path limit = ⟨((Feed.ofBytes content).cut n).lines, none⟩ := by
  have hsource : w.sourceAt path = .ok (.ofBytes content) := w.sourceAt_of_file? h
  rw [Workspace.linesAt, hsource]
  simp only [Feed.cut?, hlimit, Except.map]
  rfl

/-- Bytes that are no characters stay in their line and in their word: a file may be cut into lines,
and each line into words, before anything is read, and each is read as characters and longest
flaws. -/
theorem Workspace.linesAt_read_apart {w : Workspace} {path : Text} {content : List UInt8}
    (h : w.file? path = some (.bytes content)) :
    w.linesAt path none = ⟨(cutLines content).map decodeLossy, none⟩ ∧
      (∀ line ∈ cutLines content, ∀ limit : Int, 1 ≤ limit →
        Token.ofLine (decodeLossy line) limit =
          .ok (Token.number (((byteWords line).take limit.toNat).map decodeLossy))) ∧
      ∀ bs t, decodeLossy bs = t ↔ Reads bs t := by
  refine ⟨?_, ?_, fun bs t => reads_iff.symm⟩
  · rw [w.linesAt_bytes h lineLimit?_none, Feed.cut_none_ofBytes, cutLines_decodeLossy]
  · intro line hline limit hlimit
    have hunbroken : Unbroken (decodeLossy line) := (unbroken_of_mem_cutLines hline).decodeLossy
    rw [Token.ofLine_unbroken hunbroken hlimit, words_decodeLossy, List.map_take]

/-- Sequences that break off in front of a carriage return, a space and a lone byte. -/
theorem Workspace.linesAt_read_apart_truncated :
    let content : List UInt8 := [0xE2, 0x82, 0x0D, 0x0A, 0xF0, 0x9F, 0x20, 0xFF, 0x0D, 0xC3]
    let w : Workspace := ⟨[], [(["a"], .file (.bytes content))], by simp⟩
    w.file? "a" = some (.bytes content) ∧
      w.linesAt "a" none = ⟨(cutLines content).map decodeLossy, none⟩ ∧
      (∀ line ∈ cutLines content, ∀ limit : Int, 1 ≤ limit →
        Token.ofLine (decodeLossy line) limit =
          .ok (Token.number (((byteWords line).take limit.toNat).map decodeLossy))) ∧
      ∀ bs t, decodeLossy bs = t ↔ Reads bs t := by
  intro content w
  have h : w.file? "a" = some (.bytes content) := by decide
  exact ⟨h, Workspace.linesAt_read_apart h⟩

end AsmLint
