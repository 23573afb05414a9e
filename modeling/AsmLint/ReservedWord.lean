import AsmLint.Text.Basic

/-!
# Reserved words

Five vocabularies hold the words that a name chosen by a programmer must not collide with. A word
belongs to a vocabulary when it is equal to one of its members, character by character: `ADD` is
reserved and `add` is not.
-/

namespace AsmLint

/-- A vocabulary: its name, the name of one member, and the members in the order they are listed. -/
structure Vocabulary where
  name : Text
  singular : Text
  words : List Text
deriving DecidableEq, Repr

namespace Vocabulary

def imperative : Vocabulary where
  name := "Imperative Statements"
  singular := "Imperative Statement"
  words := ["STOP", "ADD", "SUB", "MULT", "DIV", "PRINT", "MOVER", "MOVEM", "COMP", "BC"]

def declarative : Vocabulary where
  name := "Declarative Statements"
  singular := "Declarative Statement"
  words := ["DS", "DC", "READ"]

def directives : Vocabulary where
  name := "Assembler Directives"
  singular := "Assembler Directive"
  words := ["START", "END", "ORIGIN", "EQU", "LTORG"]

def conditions : Vocabulary where
  name := "Condition Codes"
  singular := "Condition Code"
  words := ["LT", "LE", "GT", "GE", "EQ", "NE"]

def registers : Vocabulary where
  name := "Registers"
  singular := "Register"
  words := ["AREG", "BREG", "CREG", "DREG"]

/-- The five vocabularies, in the order in which they are named to the user. -/
def all : List Vocabulary := [imperative, declarative, directives, conditions, registers]

def has (v : Vocabulary) (word : Text) : Bool := v.words.contains word

@[simp] theorem has_eq_true {v : Vocabulary} {word : Text} :
    v.has word = true ↔ word ∈ v.words := by
  simp [has]

/-- The vocabularies that have a word, in the order of `all`. -/
def having (word : Text) : List Vocabulary := all.filter (·.has word)

/-- One member of the vocabulary, with its article. -/
def indefinite (v : Vocabulary) : Text :=
  if v.singular.head?.any ("AEIOU".toList.contains ·) then "an " ++ v.singular
  else "a " ++ v.singular

def unionHas (vs : List Vocabulary) (word : Text) : Bool := vs.any (·.has word)

@[simp] theorem unionHas_eq_true {vs : List Vocabulary} {word : Text} :
    unionHas vs word = true ↔ ∃ v ∈ vs, word ∈ v.words := by
  simp [unionHas]

end Vocabulary

/-- No word is in two of the five vocabularies. -/
theorem nodup_reserved : (Vocabulary.all.flatMap Vocabulary.words).Nodup := by decide

end AsmLint
