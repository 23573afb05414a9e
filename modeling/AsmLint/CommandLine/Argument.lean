import AsmLint.CommandLine.Switch
import AsmLint.Text.DecimalDigit

/-!
# Arguments

An argument is sorted by its looks alone, before any is acted on: it is a word, the separator, an
option with or without a value attached, or something that looks like an option and is none. The
start of a long name stands for the name, if no other name starts so.
-/

namespace AsmLint

inductive Argument where
  /-- A source, or the value of a limit. -/
  | word (text : Text)
  /-- The first `--`, after which everything is a word. -/
  | separator
  /-- An option, and the value that is attached to its name by an equals sign. -/
  | switch (s : Switch) (attached : Option Text)
  /-- The letter that asks for help, and what is written behind it in the same argument. -/
  | helpLetters (behind : Text)
  /-- What looks like an option and is none. -/
  | unknown (text : Text)
deriving DecidableEq, Repr

/-- Whether a text is made of decimal digits, with a point before the last of them if wanted. -/
def isUnsignedNumber (t : Text) : Bool :=
  match t.dropWhile isDecimalDigit with
  | [] => t ≠ []
  | '.' :: fraction => fraction ≠ [] && fraction.all isDecimalDigit
  | _ => false

/-- Whether a text looks like a negative number. A line feed at its end does not matter. -/
def isNegativeNumber : Text → Bool
  | '-' :: t => isUnsignedNumber (if t.getLast? = some '\n' then t.dropLast else t)
  | _ => false

namespace Argument

/-- An argument that starts as an option does but has no option's name. -/
def withoutName (arg : Text) : Argument :=
  if isNegativeNumber arg || arg.contains ' ' then word arg else unknown arg

/-- The part of an argument before its first equals sign, and the part after it. -/
def cutAtEquals (arg : Text) : Text × Option Text :=
  match arg.dropWhile (· ≠ '=') with
  | [] => (arg, none)
  | _ :: value => (arg.takeWhile (· ≠ '='), some value)

/-- Sorts an argument in front of which there is no separator; two or more options that it may stand
for are an error. The start of a long name stands for the name if no other starts so. -/
def sort (arg : Text) : Except (List Switch) Argument :=
  if arg.take 1 ≠ "-" ∨ arg = "-" then .ok (word arg)
  else
    match Switch.named? arg with
    | some s => .ok (switch s none)
    | none =>
      let (name, value) := cutAtEquals arg
      match value, Switch.named? name with
      | some v, some s =>
        .ok (if name = Switch.helpLetter then helpLetters v else switch s (some v))
      | _, _ =>
        if arg.take 2 = "--" then
          match Switch.startingWith name with
          | [] => .ok (withoutName arg)
          | [s] => .ok (switch s value)
          | ss => .error ss
        else if arg.take 2 = Switch.helpLetter then .ok (helpLetters (arg.drop 2))
        else .ok (withoutName arg)

structure Ambiguity where
  argument : Text
  candidates : List Switch
deriving DecidableEq, Repr

/-- Sorts all arguments, or finds the first that is ambiguous. -/
def sortAll : List Text → Except Ambiguity (List Argument)
  | [] => .ok []
  | arg :: rest =>
    if arg = "--" then .ok (separator :: rest.map word)
    else
      match sort arg, sortAll rest with
      | .error ss, _ => .error ⟨arg, ss⟩
      | .ok _, .error e => .error e
      | .ok a, .ok as => .ok (a :: as)

end Argument

end AsmLint
