import AsmLint.Proofs.Source.Bytes
import Mathlib.Data.List.Chain

/-!
# Written sources

A text is written line by line, and a terminator is chosen for each line. Reading gives the lines
back, whatever was chosen: only a carriage return in front of a line feed would be read as one
terminator with it, so no line that ends in a carriage return may be written in front of an empty
one that ends in a line feed.
-/

namespace AsmLint

open LineAlphabet Utf8

/-! ### Terminators -/

/-- What may end a line. -/
inductive Terminator where
  | lf
  | crlf
  | cr
deriving DecidableEq, Repr

namespace Terminator

def text : Terminator → Text
  | lf => ['\n']
  | crlf => ['\r', '\n']
  | cr => ['\r']

@[simp] lemma text_lf : lf.text = ['\n'] := rfl

@[simp] lemma text_crlf : crlf.text = ['\r', '\n'] := rfl

@[simp] lemma text_cr : cr.text = ['\r'] := rfl

lemma ends_text {e : Terminator} {t : Text} (h : e = cr → t.head? ≠ some '\n') :
    Ends e.text t := by
  cases e with
  | lf => exact .lf t
  | crlf => exact .crlf t
  | cr => exact .cr (h rfl)

end Terminator

/-! ### Writing -/

/-- Lines with the terminators chosen for them, and a last line without one; it is no line if it is
empty. -/
structure Written where
  ended : List (Text × Terminator)
  last : Text
  unbroken : ∀ x ∈ ended, Unbroken x.1
  unbroken_last : Unbroken last
  apart : ended.IsChain fun x y => x.2 = .cr → y ≠ ([], .lf)

namespace Written

def rawLines (p : Written) : List Text :=
  p.ended.map (fun x => x.1 ++ x.2.text) ++ if p.last = [] then [] else [p.last]

def lines (p : Written) : List Text :=
  p.ended.map Prod.fst ++ if p.last = [] then [] else [p.last]

def text (p : Written) : Text := p.ended.flatMap (fun x => x.1 ++ x.2.text) ++ p.last

lemma flatten_rawLines (p : Written) : p.rawLines.flatten = p.text := by
  rw [rawLines, text, List.flatten_append, List.flatMap_def]
  split_ifs <;> simp [*]

/-- A text begins with a line feed only if an empty line stands there that ends in one. -/
lemma head?_ended {p : Written} (h : p.text.head? = some '\n') :
    p.ended.head? = some ([], .lf) := by
  obtain ⟨ended, last, hended, hlast, hapart⟩ := p
  simp only [text] at h
  rcases ended with _ | ⟨⟨_ | ⟨c, u⟩, e⟩, rest⟩
  · exact absurd (List.mem_of_mem_head? h) hlast.2
  · cases e with
    | lf => rfl
    | crlf => simp at h
    | cr => simp at h
  · have hc : c = '\n' := by simpa using h
    exact absurd (hc ▸ List.mem_cons_self) (hended _ List.mem_cons_self).2

theorem rawLines_text (p : Written) : AsmLint.rawLines p.text = p.rawLines := by
  obtain ⟨ended, last, hended, hlast, hapart⟩ := p
  induction ended with
  | nil => exact rawLines_unbroken hlast
  | cons x rest ih =>
    obtain ⟨hx, hrest⟩ := List.forall_mem_cons.mp hended
    obtain ⟨hnext, hapart'⟩ := List.isChain_cons.mp hapart
    let q : Written := ⟨rest, last, hrest, hlast, hapart'⟩
    -- a carriage return ends its line alone, as no line feed stands behind it
    have he : Ends x.2.text q.text := by
      refine Terminator.ends_text fun hcr hhead => ?_
      exact hnext ([], .lf) (head?_ended hhead) hcr rfl
    have htext : text ⟨x :: rest, last, hended, hlast, hapart⟩ = x.1 ++ x.2.text ++ q.text := by
      simp [text, q]
    rw [htext, rawLines_append hx he, ih hrest hapart']
    rfl

theorem cutLines_text (p : Written) : cutLines p.text = p.lines := by
  rw [← map_dropTerminator_rawLines, rawLines_text, rawLines, lines, List.map_append, List.map_map]
  congr 1
  · refine List.map_congr_left fun x hx => ?_
    exact dropTerminator_append (p.unbroken x hx) (x.2.ends_text (t := []) (by simp))
  · split_ifs
    · rfl
    · rw [List.map_singleton, dropTerminator_unbroken p.unbroken_last]

end Written

/-! ### Files -/

/-- Reading undoes writing: a file that holds a written text has the raw lines and the lines that
were written, and a limit leaves the first characters of each. In no file does a line end but at a
line feed or a carriage return. -/
theorem Workspace.linesAt_written {w : Workspace} {path : Text} (p : Written)
    (h : w.file? path = some (.bytes (encode p.text))) :
    w.sourceAt path = .ok ⟨p.rawLines, none⟩ ∧ p.rawLines.flatten = p.text ∧
      w.linesAt path none = ⟨p.lines, none⟩ ∧
      (∀ n : Int, 1 ≤ n → w.linesAt path (some n) = ⟨p.lines.map (·.take n.toNat), none⟩) ∧
      ∀ content, ∀ raw ∈ (Feed.ofBytes content).lines.dropLast,
        raw.getLast? = some '\n' ∨ raw.getLast? = some '\r' := by
  refine ⟨?_, p.flatten_rawLines, ?_, ?_, fun content raw => getLast?_of_mem_dropLast_rawLines⟩
  · rw [w.sourceAt_of_file? h, StoredFile.feed, Feed.ofBytes, decodeLossy_encode, p.rawLines_text]
    rfl
  · rw [w.linesAt_bytes h lineLimit?_none, Feed.cut_none_ofBytes, decodeLossy_encode,
      p.cutLines_text]
  · intro n hn
    rw [w.linesAt_bytes h (lineLimit?_some hn), Feed.cut_some_ofBytes, decodeLossy_encode,
      p.cutLines_text]

/-- Two carriage returns with a line feed behind the second, characters that end lines elsewhere,
and a last line without a terminator. -/
theorem Workspace.linesAt_written_mixed :
    let p : Written := {
      ended := [("STOP", .cr), ([], .crlf), ("\x0b\x0c\x1c\x1d\x1e", .lf), ([], .cr), ([], .cr),
        ("\u0085\u2028\u2029", .crlf), ([], .lf)]
      last := "\u20ac LTORG"
      unbroken := by decide
      unbroken_last := by decide
      apart := by decide }
    let w : Workspace := ⟨[], [(["a"], .file (.bytes (encode p.text)))], by simp⟩
    w.file? "a" = some (.bytes (encode p.text)) ∧
      p.text = "STOP\r\r\n\x0b\x0c\x1c\x1d\x1e\n\r\r\u0085\u2028\u2029\r\n\n\u20ac LTORG" ∧
      w.linesAt "a" none = ⟨p.lines, none⟩ ∧
      w.linesAt "a" (some 2) =
        ⟨["ST", [], "\x0b\x0c", [], [], "\u0085\u2028", [], "\u20ac "], none⟩ := by
  intro p w
  have h : w.file? "a" = some (.bytes (encode p.text)) := by decide
  obtain ⟨-, -, hall, hsome, -⟩ := Workspace.linesAt_written p h
  exact ⟨h, by decide, hall, hsome 2 (by decide)⟩

end AsmLint
