import AsmLint.Text.Printable

/-!
# Quoted texts

A quoted text shows any text in one line of printable characters: it stands between two quotation
marks, and whatever could be mistaken (the mark itself, a backslash, a character that does not
print) is written as an escape that begins with a backslash.
-/

namespace AsmLint

namespace Quoted

def single : Char := '\''

def double : Char := '"'

/-- The mark that surrounds a text: the double one only where it spares escaping apostrophes. -/
def mark (t : Text) : Char :=
  if t.contains single && !t.contains double then double else single

/-- A number in lower-case hexadecimal, with zeros in front up to the given width. -/
def hex (width n : Nat) : Text :=
  let digits := Nat.toDigits 16 n
  List.replicate (width - digits.length) '0' ++ digits

def escape (quote c : Char) : Text :=
  if c = quote ∨ c = '\\' then ['\\', c]
  else if c = '\n' then ['\\', 'n']
  else if c = '\r' then ['\\', 'r']
  else if c = '\t' then ['\\', 't']
  else if isPrintable c then [c]
  else if c.toNat < 0x100 then '\\' :: 'x' :: hex 2 c.toNat
  else if c.toNat < 0x10000 then '\\' :: 'u' :: hex 4 c.toNat
  else '\\' :: 'U' :: hex 8 c.toNat

end Quoted

/-- A text between quotation marks, with escapes for what does not print. -/
def quoted (t : Text) : Text :=
  let q := Quoted.mark t
  q :: t.flatMap (Quoted.escape q) ++ [q]

end AsmLint
