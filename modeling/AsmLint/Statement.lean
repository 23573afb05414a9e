import AsmLint.Text.LineBreak
import AsmLint.Text.Quoted

/-!
# Statements

A line is cut into its words, the longest runs of characters other than space and tab, and a
statement keeps the first few of them. It knows whether the line had more.
-/

namespace AsmLint

/-! ### Words -/

/-- The characters that stand between words. -/
def delimiters : Text := [' ', '\t']

def isDelimiter (c : Char) : Bool := delimiters.contains c

/-- The words of a line, from left to right. -/
def words (line : Text) : List Text := (line.splitOnP isDelimiter).filter (· ≠ [])

@[simp] theorem words_nil : words [] = [] := rfl

/-- A delimiter parts a line into two whose words are found apart. -/
theorem words_append_cons {c : Char} (h : isDelimiter c) (s t : Text) :
    words (s ++ c :: t) = words s ++ words t := by
  simp [words, List.splitOnP_append_cons s t h]

/-- A delimiter in front of a line adds no word. -/
theorem words_cons_delimiter {c : Char} (h : isDelimiter c) (line : Text) :
    words (c :: line) = words line := by
  simpa using words_append_cons h [] line

/-- A line that holds no delimiter is one word, unless it is empty. -/
theorem words_eq_singleton {w : Text} (h : ∀ c ∈ w, isDelimiter c = false) (hw : w ≠ []) :
    words w = [w] := by
  simp [words, List.splitOnP_eq_singleton h, hw]

/-! ### Tokens -/

/-- A word and its position among the words of its line, counted from 0. -/
structure Token where
  text : Text
  index : Nat
deriving DecidableEq, Repr

/-- Words with their positions. -/
def Token.number (ws : List Text) : List Token := ws.mapIdx fun i w => ⟨w, i⟩

@[simp] theorem Token.map_text_number (ws : List Text) : (Token.number ws).map Token.text = ws := by
  apply List.ext_getElem <;> simp [Token.number]

/-- Why a line cannot be cut into tokens. -/
inductive SplitError where
  /-- The number of tokens to keep is below 1. -/
  | badLimit (limit : Int)
  /-- The line holds a line terminator. -/
  | terminator (line : Text)
deriving DecidableEq, Repr

def SplitError.message : SplitError → Text
  | badLimit limit => "max_tokens must be at least 1, got " ++ signedDecimal limit
  | terminator line => "line terminator reached the tokenizer: " ++ quoted line

/-- The number of tokens that a statement keeps unless told otherwise. -/
def defaultTokenLimit : Nat := 10

/-- The first `limit` tokens of a line. A terminator is refused wherever it stands. -/
def Token.ofLine (line : Text) (limit : Int) : Except SplitError (List Token) :=
  if limit < 1 then .error (.badLimit limit)
  else if line.any isTerminator then .error (.terminator line)
  else .ok (Token.number ((words line).take limit.toNat))

/-! ### Statements -/

/-- The tokens of a line that are kept, and whether some were not. -/
structure Statement where
  tokens : List Token
  truncated : Bool
deriving DecidableEq, Repr

namespace Statement

def words (s : Statement) : List Text := s.tokens.map Token.text

/-- The statement on a line: one token more than are kept is enough to see that some are dropped. -/
def ofLine (line : Text) (limit : Int) : Except SplitError Statement :=
  if limit < 1 then .error (.badLimit limit)
  else
    match Token.ofLine line (limit + 1) with
    | .error e => .error e
    | .ok found => .ok ⟨found.take limit.toNat, limit.toNat < found.length⟩

end Statement

end AsmLint
