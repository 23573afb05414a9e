import AsmLint.Verdict

/-!
# Reports

A verdict is reported in lines: one for a valid statement, which repeats its words, and one for each
violation of an invalid one. On demand each violation is explained by a note that names the
vocabularies of its word.
-/

namespace AsmLint

/-- The report on a valid statement; each word is followed by a space. -/
def validLine (number : Int) (words : List Text) : Text :=
  "[VALID] Line " ++ signedDecimal number ++ ": " ++ words.flatMap (· ++ [' '])

def errorLine (number : Int) (message token : Text) : Text :=
  "Error (Line " ++ signedDecimal number ++ "): " ++ message ++ " '" ++ token ++ "'"

namespace Verdict

/-- The report on the statement in the line of the given number. -/
def report (number : Int) (v : Verdict) : List Text :=
  if v.isValid then [validLine number v.words]
  else v.violations.map fun x => errorLine number x.message x.token

/-- Why a violation is one: the vocabularies of its word, or else that no rule covers the statement,
or else that the word may not stand alone. -/
def note (v : Verdict) (x : Violation) : Text :=
  let vocabularies := Vocabulary.having x.token
  if vocabularies ≠ [] then
    "'" ++ x.token ++ "' is " ++ joinWith " and " (vocabularies.map Vocabulary.indefinite)
  else if x.slot = none then
    "no rule covers a statement of " ++ decimal v.words.length ++ " token(s)"
  else "'" ++ x.token ++ "' is not an allowed word here"

def notes (v : Verdict) : List Text := v.violations.map v.note

end Verdict

end AsmLint
