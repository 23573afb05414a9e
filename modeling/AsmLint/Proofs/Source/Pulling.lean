import AsmLint.Session
import AsmLint.Proofs.Source.Opening
import Mathlib.Data.List.Forall2

/-!
# Pulling the lines of a file

A reader of a file opens it at the first pull, and the limit is tested only then. From there on
every raw line gives one line, in its order, and what becomes of the source shows at the pull behind
the last of them: its end, or a failure with the path and the reason. Nothing comes after that.
-/

namespace AsmLint

/-! ### What is left of a raw line -/

/-- A raw line and what is left of it without its terminator, the longest one that it ends in. -/
inductive Stripped : Text → Text → Prop
  | crlf (line : Text) : Stripped (line ++ ['\r', '\n']) line
  | lf {line : Text} (h : line.getLast? ≠ some '\r') : Stripped (line ++ ['\n']) line
  | cr (line : Text) : Stripped (line ++ ['\r']) line
  | unended {line : Text} (hlf : line.getLast? ≠ some '\n') (hcr : line.getLast? ≠ some '\r') :
      Stripped line line

lemma dropTerminator_cons {c : Char} {t : Text} (ht : t ≠ []) (h : c = '\r' → t ≠ ['\n']) :
    dropTerminator (c :: t) = c :: dropTerminator t := by
  rw [dropTerminator, dropBreak, if_neg]
  · rfl
  · simpa [ht] using fun _ => h

/-- Nothing is dropped in front of an end that is not the second half of a terminator. -/
lemma dropTerminator_append_of_ne_nil {line e : Text} (he : e ≠ [])
    (h : line.getLast? = some '\r' → e ≠ ['\n']) :
    dropTerminator (line ++ e) = line ++ dropTerminator e := by
  induction line with
  | nil => rfl
  | cons c line ih =>
    rw [List.cons_append, List.cons_append, dropTerminator_cons (by simp [he]), ih]
    · intro hlast
      refine h ?_
      rw [List.getLast?_cons, hlast, Option.getD_some]
    · rintro rfl heq
      obtain ⟨rfl, rfl⟩ : line = [] ∧ e = ['\n'] := by
        rcases List.append_eq_singleton_iff.mp heq with h' | ⟨-, rfl⟩
        · exact h'
        · exact absurd rfl he
      exact h rfl rfl

/-- Only the last terminator is dropped, whatever stands in front of it. -/
lemma Stripped.dropTerminator_eq {raw line : Text} (h : Stripped raw line) :
    dropTerminator raw = line := by
  cases h with
  | crlf =>
    rw [dropTerminator_append_of_ne_nil (by simp) (by simp)]
    exact List.append_nil line
  | lf h =>
    rw [dropTerminator_append_of_ne_nil (by simp) fun hlast => absurd hlast h]
    exact List.append_nil line
  | cr =>
    rw [dropTerminator_append_of_ne_nil (by simp) (by simp)]
    exact List.append_nil line
  | unended hlf hcr =>
    rcases List.eq_nil_or_concat' raw with rfl | ⟨front, c, rfl⟩
    · rfl
    simp only [List.getLast?_concat, ne_eq, Option.some.injEq] at hlf hcr
    have hc : isTerminator c = false := isTerminator_eq_false.mpr ⟨hcr, hlf⟩
    have hlast : dropTerminator [c] = [c] := dropBreak_eq_self isTerminator (by simpa using hc)
    rw [dropTerminator_append_of_ne_nil (by simp) (by simp [hlf]), hlast]

/-- Every text is stripped of its terminator, if it ends in one. -/
lemma exists_stripped (raw : Text) : ∃ line, Stripped raw line := by
  rcases List.eq_nil_or_concat' raw with rfl | ⟨front, c, rfl⟩
  · exact ⟨[], .unended (by simp) (by simp)⟩
  by_cases hcr : c = '\r'
  · exact ⟨front, hcr ▸ .cr front⟩
  by_cases hlf : c = '\n'
  · subst hlf
    by_cases hfront : front.getLast? = some '\r'
    · obtain ⟨line, rfl⟩ := List.getLast?_eq_some_iff.mp hfront
      refine ⟨line, ?_⟩
      rw [List.append_assoc]
      exact .crlf line
    · exact ⟨front, .lf hfront⟩
  · exact ⟨front ++ [c], .unended (by simpa using hlf) (by simpa using hcr)⟩

lemma stripped_dropTerminator (raw : Text) : Stripped raw (dropTerminator raw) := by
  obtain ⟨line, h⟩ := exists_stripped raw
  rwa [h.dropTerminator_eq]

/-- What is left of a raw line under a limit that is accepted, or under none. -/
inductive Kept (limit : Option Int) (raw : Text) : Text → Prop
  | whole {line : Text} (hlimit : limit = none) (h : Stripped raw line) : Kept limit raw line
  | cut {line : Text} {n : Int} (hlimit : limit = some n) (h : Stripped raw line) :
      Kept limit raw (line.take n.toNat)

lemma kept_statementLine {limit : Option Int} {n : Option Nat} (h : lineLimit? limit = .ok n)
    (raw : Text) : Kept limit raw (statementLine n raw) := by
  cases limit with
  | none =>
    obtain rfl : none = n := Except.ok.inj h
    exact .whole rfl (stripped_dropTerminator raw)
  | some k =>
    rw [lineLimit?] at h
    split_ifs at h
    obtain rfl : some k.toNat = n := Except.ok.inj h
    exact .cut rfl (stripped_dropTerminator raw)

/-! ### Files that can be opened -/

namespace Workspace

variable {w : Workspace} {path : Text}

/-- What the source under a path delivers if it can be opened. -/
inductive Opened (w : Workspace) (path : Text) : Feed SystemError → Prop
  | bytes {content : List UInt8} (hfile : w.file? path = some (.bytes content)) :
      Opened w path (.ofBytes content)
  | delivers {raw : Feed SystemError} (hfile : w.file? path = some (.delivers raw)) :
      Opened w path raw

theorem opened_iff {raw : Feed SystemError} : w.Opened path raw ↔ w.sourceAt path = .ok raw := by
  constructor
  · rintro (hfile | hfile)
    all_goals
      obtain ⟨hf, -⟩ | ⟨hf, -⟩ | ⟨f, hf, -, hs⟩ := sourceAt_cases w path
      · cases hf.symm.trans hfile
      · cases hf.symm.trans hfile
      · obtain rfl := Option.some.inj (hf.symm.trans hfile)
        exact hs
  · intro h
    obtain ⟨-, -, hs⟩ | ⟨-, -, hs⟩ | ⟨f, hf, -, hs⟩ := sourceAt_cases w path
    · cases hs.symm.trans h
    · cases hs.symm.trans h
    · rw [hs] at h
      cases f with
      | bytes content =>
        obtain rfl := Except.ok.inj h
        exact .bytes hf
      | delivers feed =>
        obtain rfl := Except.ok.inj h
        exact .delivers hf
      | unreadable | unopenable e => cases h

lemma closed_or_opened (w : Workspace) (path : Text) :
    (∃ reason, w.Closed path reason) ∨ ∃ raw, w.Opened path raw := by
  cases h : w.sourceAt path with
  | error u => exact .inl ⟨_, closed_iff.mpr ⟨u, h, path_of_sourceAt h, rfl⟩⟩
  | ok raw => exact .inr ⟨raw, opened_iff.mpr h⟩

end Workspace

/-! ### Pulls -/

/-- What pulling a reader time after time gives: the items in order, then the fault or the end, and
nothing after that. -/
structure Session.Gives (s : Session) (i : Nat) (items : List Item) (fault : Option ReaderFault) :
    Prop where
  item : ∀ k x, items[k]? = some x → ((s.advance i k).pull i).1 = .item x
  ending : ((s.advance i items.length).pull i).1 = fault.elim .ended .failed
  ended : ∀ k, items.length < k → ((s.advance i k).pull i).1 = .ended

namespace Session

variable {s : Session} {i : Nat}

/-- Whether the reader of the given number has items at hand once it is pulled, and the fault that
follows them. -/
def Holds (s : Session) (i : Nat) (items : List Item) (fault : Option ReaderFault) : Prop :=
  ∃ r, s.readers[i]? = some r ∧ r.begin s.workspace = .ready items fault

lemma pull_cons {x : Item} {xs : List Item} {fault : Option ReaderFault}
    (h : s.Holds i (x :: xs) fault) :
    (s.pull i).1 = .item x ∧ (s.pull i).2.Holds i xs fault := by
  obtain ⟨r, hr, hbegin⟩ := h
  have hi : i < s.readers.length := (List.getElem?_eq_some_iff.mp hr).1
  have hpull : pullReader s.workspace s.readers i =
      (.item x, s.readers.set i (.ready xs fault)) := by
    rw [pullReader, hr, Option.getD_some, hbegin]
  rw [pull, hpull]
  exact ⟨rfl, .ready xs fault, List.getElem?_set_self hi, rfl⟩

lemma pull_nil {fault : Option ReaderFault} (h : s.Holds i [] fault) :
    (s.pull i).1 = fault.elim .ended .failed ∧ (s.pull i).2.Holds i [] none := by
  obtain ⟨r, hr, hbegin⟩ := h
  have hi : i < s.readers.length := (List.getElem?_eq_some_iff.mp hr).1
  have hpull : pullReader s.workspace s.readers i =
      (fault.elim .ended .failed, s.readers.set i .ended) := by
    rw [pullReader, hr, Option.getD_some, hbegin]
    cases fault <;> rfl
  rw [pull, hpull]
  exact ⟨rfl, .ended, List.getElem?_set_self hi, rfl⟩

lemma pull_of_holds_nil (h : s.Holds i [] none) (k : Nat) :
    ((s.advance i k).pull i).1 = .ended := by
  induction k generalizing s with
  | zero => exact (pull_nil h).1
  | succ k ih => exact ih (pull_nil h).2

/-- A reader gives what it holds: each pull takes one item from what is at hand. -/
lemma Holds.gives {items : List Item} {fault : Option ReaderFault} (h : s.Holds i items fault) :
    s.Gives i items fault := by
  induction items generalizing s with
  | nil =>
    refine ⟨by simp, (pull_nil h).1, ?_⟩
    intro k hk
    obtain ⟨k, rfl⟩ := Nat.exists_eq_succ_of_ne_zero hk.ne'
    exact pull_of_holds_nil (pull_nil h).2 k
  | cons x xs ih =>
    obtain ⟨hitem, hrest⟩ := pull_cons h
    have hgives := ih hrest
    refine ⟨?_, hgives.ending, ?_⟩
    · rintro (_ | k) y hy
      · rw [← Option.some.inj hy]
        exact hitem
      · exact hgives.item k y hy
    · rintro (_ | k) hk
      · cases hk
      · exact hgives.ended k (Nat.lt_of_succ_lt_succ hk)

end Session

/-! ### Reading a file -/

/-- Whether lines stop with a failure that tells the path and a reason. -/
def Feed.Fails (f : Feed ReadError) (path reason : Text) : Prop :=
  ∃ u, f.failure = some (.unavailable u) ∧ u.path = path ∧ u.why.reason = reason

/-- What the lines of a file are. -/
structure Workspace.Yields (w : Workspace) (path : Text) (limit : Option Int) (f : Feed ReadError) :
    Prop where
  closed_or_opened : (∃ reason, w.Closed path reason) ∨ ∃ raw, w.Opened path raw
  /-- A file that cannot be opened is told with the first reason, however bad the limit is. -/
  closed : ∀ reason, w.Closed path reason → f.lines = [] ∧ f.Fails path reason
  badLimit : ∀ raw n, w.Opened path raw → limit = some n → n < 1 → f = ⟨[], some (.limit ⟨n⟩)⟩
  /-- No raw line is lost, whatever comes behind the last of them. -/
  lines : ∀ raw, w.Opened path raw → (∀ n, limit = some n → 1 ≤ n) →
    List.Forall₂ (Kept limit) raw.lines f.lines
  ended : ∀ raw, w.Opened path ⟨raw, none⟩ → (∀ n, limit = some n → 1 ≤ n) → f.failure = none
  failed : ∀ raw e, w.Opened path ⟨raw, some e⟩ → (∀ n, limit = some n → 1 ≤ n) →
    f.Fails path ((e.strerror?.filter (· ≠ [])).getD e.message)

namespace Workspace

variable {w : Workspace} {path : Text} {limit : Option Int}

lemma exists_lineLimit (h : ∀ n, limit = some n → 1 ≤ n) : ∃ n, lineLimit? limit = .ok n := by
  cases limit with
  | none => exact ⟨none, rfl⟩
  | some n => exact ⟨some n.toNat, if_neg (Int.not_lt.mpr (h n rfl))⟩

/-- The lines of a file that is opened, under a limit that is accepted. -/
lemma linesAt_opened {raw : Feed SystemError} (hraw : w.Opened path raw) {n : Option Nat}
    (hn : lineLimit? limit = .ok n) :
    w.linesAt path limit = ⟨raw.lines.map (statementLine n),
      raw.failure.map fun e => .unavailable ⟨path, .system e⟩⟩ := by
  rw [linesAt, opened_iff.mp hraw]
  simp only [Feed.cut?, hn]
  rfl

/-- The lines of a file are those that it delivers up to a failure, and no failure of the system
gets past its reader: one after the other the lines can be pulled, then the failure is told, and
then nothing more comes. -/
theorem linesAt_yields (w : Workspace) (path : Text) (limit : Option Int) :
    let f := w.linesAt path limit
    w.Yields path limit f ∧
      ∀ (s : Session) (i : Nat), s.workspace = w → s.readers[i]? = some (.file path limit) →
        s.Gives i (f.lines.map .line) (f.failure.map .ofReadError) := by
  intro f
  refine ⟨⟨closed_or_opened w path, ?_, ?_, ?_, ?_, ?_⟩, ?_⟩
  · intro reason hclosed
    obtain ⟨u, hu, hpath, hreason⟩ := closed_iff.mp hclosed
    have hf : f = ⟨[], some (.unavailable u)⟩ := by simp only [f, linesAt, hu]
    rw [hf]
    exact ⟨rfl, u, rfl, hpath, hreason⟩
  · rintro raw n hraw rfl hn
    have hlimit : lineLimit? (some n) = .error ⟨n⟩ := if_pos hn
    simp only [f, linesAt, opened_iff.mp hraw, Feed.cut?, hlimit]
    rfl
  · intro raw hraw hlimit
    obtain ⟨n, hn⟩ := exists_lineLimit hlimit
    rw [show f = _ from linesAt_opened hraw hn, List.forall₂_map_right_iff, List.forall₂_same]
    exact fun line _ => kept_statementLine hn line
  · intro raw hraw hlimit
    obtain ⟨n, hn⟩ := exists_lineLimit hlimit
    rw [show f = _ from linesAt_opened hraw hn]
    rfl
  · intro raw e hraw hlimit
    obtain ⟨n, hn⟩ := exists_lineLimit hlimit
    rw [show f = _ from linesAt_opened hraw hn]
    exact ⟨_, rfl, rfl, e.reason_eq⟩
  · rintro s i rfl hs
    exact Session.Holds.gives ⟨_, hs, rfl⟩

/-- A file that fails without a reason, behind a carriage return inside a line and a last line
without a terminator. -/
theorem linesAt_yields_failing :
    let raw : Feed SystemError := ⟨["A\rBC\r\n", "STOP"], some (.numbered 5 [])⟩
    let w : Workspace := ⟨[], [(["a"], .file (.delivers raw))], by simp⟩
    let s : Session := { workspace := w, readers := [.file "a" (some 3)] }
    w.Opened "a" raw ∧ (∀ n, some 3 = some n → (1 : Int) ≤ n) ∧
      (w.linesAt "a" (some 3)).lines = ["A\rB", "STO"] ∧
      (w.linesAt "a" (some 3)).Fails "a" "[Errno 5] " ∧
      ((s.advance 0 1).pull 0).1 = .item (.line "STO") ∧ ((s.advance 0 3).pull 0).1 = .ended := by
  intro raw w s
  have hopened : w.Opened "a" raw := .delivers (by decide)
  have hlimit : ∀ n, some 3 = some n → (1 : Int) ≤ n := by
    rintro n ⟨⟩
    decide
  obtain ⟨hyields, hgives⟩ := linesAt_yields w "a" (some 3)
  obtain ⟨hitem, -, hended⟩ := hgives s 0 rfl rfl
  exact ⟨hopened, hlimit, by decide, hyields.failed _ _ hopened hlimit, hitem 1 _ (by decide),
    hended 3 (by decide)⟩

end Workspace

end AsmLint
