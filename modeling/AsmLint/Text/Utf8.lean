import AsmLint.Text.Basic

/-!
# UTF-8

Bytes are read one at a time by a machine whose state is the character that has begun and is not
complete. What it finds is a list of pieces: characters, and flaws. A flaw is a longest run of bytes
that begins a character and cannot be continued by the next byte, or a single byte that begins none.

Reading is lenient (`decodeLossy`, each flaw becomes one replacement character) or strict
(`decodeStrict?`, the first flaw is an error that knows its place).
-/

namespace AsmLint.Utf8

/-! ### Writing -/

/-- A continuation byte, which holds six bits of a code point. -/
def continuation (n : Nat) : UInt8 := (0x80 + n % 64).toUInt8

def encodeChar (c : Char) : List UInt8 :=
  let n := c.toNat
  if n < 0x80 then [n.toUInt8]
  else if n < 0x800 then [(0xC0 + n / 64).toUInt8, continuation n]
  else if n < 0x10000 then [(0xE0 + n / 4096).toUInt8, continuation (n / 64), continuation n]
  else [(0xF0 + n / 262144).toUInt8, continuation (n / 4096), continuation (n / 64), continuation n]

def encode (t : Text) : List UInt8 := t.flatMap encodeChar

@[simp] theorem encode_cons (c : Char) (t : Text) : encode (c :: t) = encodeChar c ++ encode t := by
  simp [encode]

@[simp] theorem encode_append (s t : Text) : encode (s ++ t) = encode s ++ encode t := by
  simp [encode]

/-! ### Reading -/

/-- Why bytes are no character. -/
inductive Flaw where
  /-- No character begins with the byte. -/
  | start
  /-- The byte after them does not continue the character. -/
  | broken
  /-- The bytes end inside the character. -/
  | truncated
deriving DecidableEq, Repr

/-- What a run of bytes is read as. -/
inductive Piece where
  | char (c : Char)
  | flaw (bytes : List UInt8) (why : Flaw)
deriving DecidableEq, Repr

/-- A character that has begun: its bytes so far, the code point they spell so far, how many bytes
are due, and the closed range that the next of them has to be in. -/
structure Begun where
  bytes : List UInt8
  value : Nat
  due : Nat
  low : Nat
  high : Nat
deriving DecidableEq, Repr

/-- A character that begins with the byte `b`; `value` are the bits that `b` holds. -/
def Begun.first (b : UInt8) (value due : Nat) : Begun := ⟨[b], value, due, 0x80, 0xBF⟩

/-- Reads a byte where a character may begin. The ranges after E0, ED, F0 and F4 leave out
overlong forms, surrogates and what lies beyond the last code point. -/
def start (b : UInt8) : List Piece × Option Begun :=
  let n := b.toNat
  if n < 0x80 then ([.char (Char.ofNat n)], none)
  else if n < 0xC2 then ([.flaw [b] .start], none)
  else if n < 0xE0 then ([], some (.first b (n - 0xC0) 1))
  else if n = 0xE0 then ([], some { Begun.first b 0 2 with low := 0xA0 })
  else if n = 0xED then ([], some { Begun.first b 0xD 2 with high := 0x9F })
  else if n < 0xF0 then ([], some (.first b (n - 0xE0) 2))
  else if n = 0xF0 then ([], some { Begun.first b 0 3 with low := 0x90 })
  else if n < 0xF4 then ([], some (.first b (n - 0xF0) 3))
  else if n = 0xF4 then ([], some { Begun.first b 4 3 with high := 0x8F })
  else ([.flaw [b] .start], none)

/-- Reads one byte: it continues the character that has begun, or shows that one to be broken and
is then read where a character may begin. -/
def step : Option Begun → UInt8 → List Piece × Option Begun
  | none, b => start b
  | some s, b =>
    if s.low ≤ b.toNat ∧ b.toNat ≤ s.high then
      let value := s.value * 64 + (b.toNat - 0x80)
      if s.due ≤ 1 then ([.char (Char.ofNat value)], none)
      else ([], some ⟨s.bytes ++ [b], value, s.due - 1, 0x80, 0xBF⟩)
    else
      let next := start b
      (.flaw s.bytes .broken :: next.1, next.2)

/-- The pieces of the bytes that follow a character that has begun. -/
def piecesFrom : Option Begun → List UInt8 → List Piece
  | none, [] => []
  | some s, [] => [.flaw s.bytes .truncated]
  | s, b :: bs =>
    let next := step s b
    next.1 ++ piecesFrom next.2 bs

def pieces (bs : List UInt8) : List Piece := piecesFrom none bs

theorem piecesFrom_cons (s : Option Begun) (b : UInt8) (bs : List UInt8) :
    piecesFrom s (b :: bs) = (step s b).1 ++ piecesFrom (step s b).2 bs := by
  cases s <;> rfl

/-! ### Lenient reading -/

/-- The character that stands for a flaw. -/
def replacement : Char := Char.ofNat 0xFFFD

def Piece.toChar : Piece → Char
  | .char c => c
  | .flaw .. => replacement

/-- The text of a byte sequence, with one replacement character for each flaw. -/
def decodeLossy (bs : List UInt8) : Text := (pieces bs).map Piece.toChar

@[simp] theorem decodeLossy_nil : decodeLossy [] = [] := rfl

/-! ### Strict reading -/

structure DecodeError where
  position : Nat
  bytes : List UInt8
  why : Flaw
deriving DecidableEq, Repr

/-- The text of pieces that hold no flaw, or the first flaw; `position` bytes stand before them. -/
def Piece.textOf (position : Nat) : List Piece → Except DecodeError Text
  | [] => .ok []
  | .flaw bytes why :: _ => .error ⟨position, bytes, why⟩
  | .char c :: ps => (textOf (position + (encodeChar c).length) ps).map (c :: ·)

/-- The text of a byte sequence that holds no flaw, or its first flaw. -/
def decodeStrict? (bs : List UInt8) : Except DecodeError Text := Piece.textOf 0 (pieces bs)

end AsmLint.Utf8
