import AsmLint.Text.Basic

/-!
# Line breaks

Two rules end a line. A statement line ends after a line feed, a carriage return or the two in this
order; a line of a stored report ends also at the other characters that Unicode counts as line or
paragraph ends. In both a carriage return and the line feed after it are one break, and a last line
without a break counts only if it is not empty.

Cutting loses nothing: the pieces of a text joined together are the text.
-/

namespace AsmLint

/-- The two characters that end a statement line. -/
def isTerminator (c : Char) : Bool := c = '\n' || c = '\r'

/-- The characters that end a line of a stored report: line feed, vertical tab, form feed, carriage
return, the file, group and record separators, next line, line separator, paragraph separator. -/
def isReportBreak (c : Char) : Bool :=
  (0xA ≤ c.toNat && c.toNat ≤ 0xD) || (0x1C ≤ c.toNat && c.toNat ≤ 0x1E) || c.toNat = 0x85 ||
    c.toNat = 0x2028 || c.toNat = 0x2029

section

variable (breaks : Char → Bool)

/-! ### Pieces -/

/-- One more character in front of a text that is already cut: a break is a piece of its own, unless
it is a carriage return before a line feed; anything else joins the first piece. -/
def consPiece (c : Char) : List Text → List Text
  | [] => [[c]]
  | p :: ps =>
    if breaks c && !(c = '\r' && p = ['\n']) then [c] :: p :: ps else (c :: p) :: ps

/-- A text cut after each break; every piece keeps its break. -/
def pieces (t : Text) : List Text := t.foldr (consPiece breaks) []

@[simp] theorem pieces_nil : pieces breaks [] = [] := rfl

@[simp] theorem pieces_cons (c : Char) (t : Text) :
    pieces breaks (c :: t) = consPiece breaks c (pieces breaks t) := rfl

theorem flatten_consPiece (c : Char) (ps : List Text) :
    (consPiece breaks c ps).flatten = c :: ps.flatten := by
  cases ps with
  | nil => rfl
  | cons p ps => simp only [consPiece]; split <;> rfl

/-- Cutting loses nothing. -/
@[simp] theorem flatten_pieces (t : Text) : (pieces breaks t).flatten = t := by
  induction t with
  | nil => rfl
  | cons c t ih => rw [pieces_cons, flatten_consPiece, ih]

/-- No piece is empty. -/
theorem ne_nil_of_mem_pieces {t p : Text} (h : p ∈ pieces breaks t) : p ≠ [] := by
  induction t generalizing p with
  | nil => simp at h
  | cons c t ih =>
    rw [pieces_cons] at h
    cases hp : pieces breaks t with
    | nil => simp_all [consPiece]
    | cons q qs =>
      rw [hp] at h ih
      simp only [consPiece] at h
      split at h
      · rcases List.mem_cons.1 h with rfl | h
        · simp
        · exact ih h
      · rcases List.mem_cons.1 h with rfl | h
        · simp
        · exact ih (List.mem_cons_of_mem _ h)

/-- A text without the one break at its end, if it has one there. -/
def dropBreak : Text → Text
  | [] => []
  | c :: t => if breaks c && (t = [] || (c = '\r' && t = ['\n'])) then [] else c :: dropBreak t

/-- A text that holds no break is left alone. -/
theorem dropBreak_eq_self {t : Text} (h : ∀ c ∈ t, breaks c = false) : dropBreak breaks t = t := by
  induction t with
  | nil => rfl
  | cons c t ih =>
    simp [dropBreak, h c List.mem_cons_self, ih fun d hd => h d (List.mem_cons_of_mem _ hd)]

end

/-! ### Statement lines -/

/-- The raw lines of a text, each with its terminator. -/
def rawLines (t : Text) : List Text := pieces isTerminator t

/-- A line without its terminator; only one is removed. -/
def dropTerminator (line : Text) : Text := dropBreak isTerminator line

/-! ### Report lines -/

/-- The lines of a stored report, without their breaks. -/
def reportLines (t : Text) : List Text := (pieces isReportBreak t).map (dropBreak isReportBreak)

/-- A text in which every terminator is a single line feed. -/
def unifyTerminators : Text → Text
  | [] => []
  | '\r' :: '\n' :: t => '\n' :: unifyTerminators t
  | '\r' :: t => '\n' :: unifyTerminators t
  | c :: t => c :: unifyTerminators t

end AsmLint
