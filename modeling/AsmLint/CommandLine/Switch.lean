import AsmLint.Text.Basic

/-!
# Switches

The options of the command line: one that asks for help, two limits, which take a number, and four
flags. Each has a name, which no other has, and the one that asks for help also has a letter.
-/

namespace AsmLint

/-- The options that take a number. -/
inductive Limit where
  | tokens
  | lineLength
deriving DecidableEq, Repr

/-- The options that are given or not. -/
inductive Flag where
  | referenceLimits
  | rejectUnsupported
  | strict
  | explain
deriving DecidableEq, Repr

inductive Switch where
  | help
  | limit (l : Limit)
  | flag (f : Flag)
deriving DecidableEq, Repr

namespace Switch

/-- Every option, in the order in which they are listed to the user. -/
def all : List Switch :=
  [help, limit .tokens, limit .lineLength, flag .referenceLimits, flag .rejectUnsupported,
    flag .strict, flag .explain]

theorem mem_all (s : Switch) : s ∈ all := by
  cases s with
  | help => decide
  | limit l => cases l <;> decide
  | flag f => cases f <;> decide

def spelling : Switch → Text
  | help => "--help"
  | limit .tokens => "--max-tokens"
  | limit .lineLength => "--max-line-length"
  | flag .referenceLimits => "--reference-limits"
  | flag .rejectUnsupported => "--reject-unsupported"
  | flag .strict => "--strict"
  | flag .explain => "--explain"

/-- The one name of a single letter, for help. -/
def helpLetter : Text := "-h"

/-- The names of an option, as a message gives them. -/
def display : Switch → Text
  | help => helpLetter ++ "/" ++ help.spelling
  | s => s.spelling

def named? (name : Text) : Option Switch :=
  if name = helpLetter then some help else all.find? (·.spelling = name)

def startingWith (start : Text) : List Switch := all.filter (start.isPrefixOf ·.spelling)

end Switch

end AsmLint
