import AsmLint.Text.Utf8
import AsmLint.Proofs.Text.Lines
import Mathlib.Algebra.Group.Nat.Defs

/-!
# Lenient reading and ASCII bytes

An ASCII byte ends whatever character has begun and is read as itself, and no other byte yields an
ASCII character. So lenient reading commutes with every cut at ASCII bytes, whatever stands on
either side of the cut.
-/

namespace AsmLint.Utf8

/-! ### Characters that have begun -/

lemma toNat_ofNat {n : Nat} (h : n.isValidChar) : (Char.ofNat n).toNat = n := by
  rw [Char.ofNat, dif_pos h]
  rfl

lemma toNat_ofNat_byte (b : UInt8) : (Char.ofNat b.toNat).toNat = b.toNat := by
  have := b.toNat_lt
  exact toNat_ofNat (.inl (by omega))

lemma ofNat_byte_inj {a b : UInt8} (h : Char.ofNat a.toNat = Char.ofNat b.toNat) : a = b :=
  UInt8.toNat_inj.mp (by rw [← toNat_ofNat_byte a, h, toNat_ofNat_byte b])

lemma toNat_replacement : replacement.toNat = 0xFFFD := by decide

@[simp] lemma Piece.toChar_char (c : Char) : (Piece.char c).toChar = c := rfl

@[simp] lemma Piece.toChar_flaw (bs : List UInt8) (why : Flaw) :
    (Piece.flaw bs why).toChar = replacement := rfl

lemma div_pow_succ (n k : Nat) : n / 64 ^ (k + 1) = n / 64 ^ k / 64 := by
  rw [Nat.pow_succ, Nat.div_div_eq_div_mul]

/-- Whether a character that has begun may still become the one of the given code point. -/
def Begun.Spells (s : Begun) (n : Nat) : Prop :=
  s.value * 64 + (s.low - 0x80) ≤ n / 64 ^ (s.due - 1) ∧
    n / 64 ^ (s.due - 1) ≤ s.value * 64 + (s.high - 0x80)

/-- The next byte is a continuation byte, and all code points that the bytes can still spell are
characters outside ASCII. -/
structure Begun.Sound (s : Begun) : Prop where
  low : 0x80 ≤ s.low
  high : s.high ≤ 0xBF
  valid : ∀ n, s.Spells n → 0x80 ≤ n ∧ n.isValidChar

/-- It is enough to look at the least and at the greatest code point that the bytes can spell. -/
lemma Begun.sound_of_range {s : Begun} (hlow : 0x80 ≤ s.low) (hhigh : s.high ≤ 0xBF)
    (hmin : 0x80 ≤ (s.value * 64 + (s.low - 0x80)) * 64 ^ (s.due - 1))
    (hmax : (s.value * 64 + (s.high - 0x80) + 1) * 64 ^ (s.due - 1) ≤ 0xD800 ∨
      0xE000 ≤ (s.value * 64 + (s.low - 0x80)) * 64 ^ (s.due - 1) ∧
        (s.value * 64 + (s.high - 0x80) + 1) * 64 ^ (s.due - 1) ≤ 0x110000) : s.Sound := by
  refine ⟨hlow, hhigh, fun n ⟨hge, hle⟩ => ?_⟩
  have hpos : 0 < 64 ^ (s.due - 1) := Nat.pow_pos (by decide)
  have hge := (Nat.le_div_iff_mul_le hpos).mp hge
  have hlt := (Nat.div_lt_iff_lt_mul hpos).mp (Nat.lt_succ_of_le hle)
  rw [Nat.succ_eq_add_one] at hlt
  simp only [Nat.isValidChar]
  omega

/-- How a first byte determines the number of bytes that are due, the bits of the code point and the
range of the next byte. -/
structure Begun.OpenedBy (s : Begun) (b : UInt8) : Prop where
  bytes : s.bytes = [b]
  form :
    s.due = 1 ∧ b.toNat = 0xC0 + s.value ∧ 2 ≤ s.value ∧ s.value < 0x20 ∧
        s.low = 0x80 ∧ s.high = 0xBF ∨
      s.due = 2 ∧ b.toNat = 0xE0 + s.value ∧ s.value < 0x10 ∧
        (s.value = 0 ∧ s.low = 0xA0 ∨ s.value ≠ 0 ∧ s.low = 0x80) ∧
        (s.value = 0xD ∧ s.high = 0x9F ∨ s.value ≠ 0xD ∧ s.high = 0xBF) ∨
      s.due = 3 ∧ b.toNat = 0xF0 + s.value ∧ s.value ≤ 4 ∧
        (s.value = 0 ∧ s.low = 0x90 ∨ s.value ≠ 0 ∧ s.low = 0x80) ∧
        (s.value = 4 ∧ s.high = 0x8F ∨ s.value ≠ 4 ∧ s.high = 0xBF)

lemma Begun.OpenedBy.sound {s : Begun} {b : UInt8} (h : s.OpenedBy b) : s.Sound := by
  have hform := h.form
  have hpow : s.due = 1 ∧ 64 ^ (s.due - 1) = 1 ∨ s.due = 2 ∧ 64 ^ (s.due - 1) = 64 ∨
      s.due = 3 ∧ 64 ^ (s.due - 1) = 4096 := by
    rcases hform with ⟨hdue, -⟩ | ⟨hdue, -⟩ | ⟨hdue, -⟩ <;> simp [hdue]
  apply Begun.sound_of_range
  · omega
  · omega
  · rcases hpow with ⟨hdue, hpow⟩ | ⟨hdue, hpow⟩ | ⟨hdue, hpow⟩ <;> rw [hpow] <;> omega
  · rcases hpow with ⟨hdue, hpow⟩ | ⟨hdue, hpow⟩ | ⟨hdue, hpow⟩ <;> rw [hpow] <;> omega

/-- What a byte can be where a character may begin. -/
inductive FirstByte (b : UInt8) : List Piece × Option Begun → Prop
  | ascii (h : b.toNat < 0x80) : FirstByte b ([.char (Char.ofNat b.toNat)], none)
  | flaw (h : 0x80 ≤ b.toNat ∧ b.toNat < 0xC2 ∨ 0xF4 < b.toNat) :
    FirstByte b ([.flaw [b] .start], none)
  | begun {s : Begun} (hs : s.OpenedBy b) : FirstByte b ([], some s)

lemma firstByte_start (b : UInt8) : FirstByte b (start b) := by
  simp only [start]
  split
  · exact .ascii ‹_›
  split
  · exact .flaw (by omega)
  -- the seven kinds of first byte differ only in the range of code points
  iterate 7
    split
    · refine .begun ⟨rfl, ?_⟩
      dsimp only [Begun.first]
      omega
  exact .flaw (by omega)

lemma sound_start {b : UInt8} {s : Begun} (h : (start b).2 = some s) : s.Sound := by
  have hb := firstByte_start b
  generalize start b = f at hb h
  cases hb with
  | ascii => simp at h
  | flaw => simp at h
  | begun hs => exact Option.some.inj h ▸ hs.sound

/-- A byte that continues a character leaves one that can spell no more than before. -/
lemma Begun.Spells.of_next {s : Begun} (hlow : 0x80 ≤ s.low) {b : UInt8}
    (hb : s.low ≤ b.toNat ∧ b.toNat ≤ s.high) (hdue : ¬s.due ≤ 1) {n : Nat}
    (hn : Begun.Spells
      ⟨s.bytes ++ [b], s.value * 64 + (b.toNat - 0x80), s.due - 1, 0x80, 0xBF⟩ n) :
    s.Spells n := by
  obtain ⟨hge, hle⟩ := hn
  simp only at hge hle
  have hdiv : n / 64 ^ (s.due - 1) = n / 64 ^ (s.due - 1 - 1) / 64 := by
    rw [← div_pow_succ, Nat.sub_add_cancel (by omega)]
  constructor <;> rw [hdiv] <;> omega

lemma Begun.Sound.next {s : Begun} (hs : s.Sound) {b : UInt8}
    (hb : s.low ≤ b.toNat ∧ b.toNat ≤ s.high)
    (hdue : ¬s.due ≤ 1) :
    Begun.Sound ⟨s.bytes ++ [b], s.value * 64 + (b.toNat - 0x80), s.due - 1, 0x80, 0xBF⟩ := by
  exact ⟨Nat.le_refl _, Nat.le_refl _, fun n hn => hs.valid n (hn.of_next hs.low hb hdue)⟩

/-- The byte that completes a character completes one outside ASCII. -/
lemma Begun.Sound.last {s : Begun} (hs : s.Sound) {b : UInt8}
    (hb : s.low ≤ b.toNat ∧ b.toNat ≤ s.high)
    (hdue : s.due ≤ 1) : 0x80 ≤ (Char.ofNat (s.value * 64 + (b.toNat - 0x80))).toNat := by
  have hpow : 64 ^ (s.due - 1) = 1 := by
    rw [Nat.sub_eq_zero_of_le hdue, Nat.pow_zero]
  have := hs.low
  obtain ⟨hn, hvalid⟩ := hs.valid (s.value * 64 + (b.toNat - 0x80))
    (by unfold Begun.Spells; rw [hpow, Nat.div_one]; omega)
  rwa [toNat_ofNat hvalid]

lemma sound_step {o : Option Begun} (ho : ∀ s ∈ o, s.Sound) (b : UInt8) :
    ∀ s ∈ (step o b).2, s.Sound := by
  intro s hs
  cases o with
  | none => exact sound_start hs
  | some r =>
    simp only [step] at hs
    split_ifs at hs with hb hdue
    · simp at hs
    · simp only [Option.mem_some_iff] at hs
      exact hs ▸ (ho r rfl).next hb hdue
    · exact sound_start hs

/-! ### Characters that are read -/

/-- The text of the bytes that follow a character that has begun. -/
def decodeFrom (o : Option Begun) (bs : List UInt8) : Text := (piecesFrom o bs).map Piece.toChar

lemma decodeFrom_cons (o : Option Begun) (b : UInt8) (bs : List UInt8) :
    decodeFrom o (b :: bs) = (step o b).1.map Piece.toChar ++ decodeFrom (step o b).2 bs := by
  rw [decodeFrom, piecesFrom_cons, List.map_append, decodeFrom]

/-- Where a character may begin, an ASCII byte is read as itself. -/
lemma start_ascii {b : UInt8} (h : b.toNat < 0x80) :
    start b = ([.char (Char.ofNat b.toNat)], none) := by
  simp [start, h]

/-- Only an ASCII byte is read as an ASCII character. -/
lemma mem_start {b : UInt8} {p : Piece} (hp : p ∈ (start b).1) :
    0x80 ≤ p.toChar.toNat ∨ b.toNat < 0x80 ∧ p.toChar = Char.ofNat b.toNat := by
  have hb := firstByte_start b
  generalize start b = f at hb hp
  cases hb with
  | ascii hascii =>
    rw [List.mem_singleton.mp hp]
    exact .inr ⟨hascii, rfl⟩
  | flaw =>
    rw [List.mem_singleton.mp hp, Piece.toChar_flaw, toNat_replacement]
    exact .inl (by decide)
  | begun => simp at hp

lemma mem_step {o : Option Begun} (ho : ∀ s ∈ o, s.Sound) {b : UInt8} {p : Piece}
    (hp : p ∈ (step o b).1) :
    0x80 ≤ p.toChar.toNat ∨ b.toNat < 0x80 ∧ p.toChar = Char.ofNat b.toNat := by
  cases o with
  | none => exact mem_start hp
  | some s =>
    simp only [step] at hp
    split_ifs at hp with hb hdue
    · rw [List.mem_singleton.mp hp]
      exact .inl ((ho s rfl).last hb hdue)
    · simp at hp
    · rcases List.mem_cons.mp hp with rfl | hp
      · rw [Piece.toChar_flaw, toNat_replacement]
        exact .inl (by decide)
      · exact mem_start hp

/-- Each character of a text that was read lies outside ASCII or is one of the bytes. -/
lemma mem_decodeFrom {o : Option Begun} (ho : ∀ s ∈ o, s.Sound) {bs : List UInt8} {c : Char}
    (hc : c ∈ decodeFrom o bs) :
    0x80 ≤ c.toNat ∨ ∃ b ∈ bs, b.toNat < 0x80 ∧ c = Char.ofNat b.toNat := by
  induction bs generalizing o with
  | nil =>
    cases o with
    | none => simp [decodeFrom, piecesFrom] at hc
    | some s =>
      rw [show c = replacement by simpa [decodeFrom, piecesFrom] using hc, toNat_replacement]
      exact .inl (by decide)
  | cons b bs ih =>
    rw [decodeFrom_cons, List.mem_append] at hc
    rcases hc with hc | hc
    · obtain ⟨p, hp, rfl⟩ := List.mem_map.mp hc
      rcases mem_step ho hp with h | ⟨hb, h⟩
      · exact .inl h
      · exact .inr ⟨b, List.mem_cons_self, hb, h⟩
    · rcases ih (sound_step ho b) hc with h | ⟨d, hd, h⟩
      · exact .inl h
      · exact .inr ⟨d, List.mem_cons_of_mem _ hd, h⟩

/-- What has begun is read as something, be it a replacement character. -/
lemma decodeFrom_some_ne_nil (s : Begun) (bs : List UInt8) : decodeFrom (some s) bs ≠ [] := by
  induction bs generalizing s with
  | nil => simp [decodeFrom, piecesFrom]
  | cons b bs ih =>
    rw [decodeFrom_cons]
    simp only [step]
    split_ifs
    · simp
    · simpa using ih _
    · simp

/-- The first character that comes of one that has begun lies outside ASCII. -/
lemma head?_decodeFrom_some {s : Begun} (hs : s.Sound) {bs : List UInt8} {c : Char}
    (hc : (decodeFrom (some s) bs).head? = some c) : 0x80 ≤ c.toNat := by
  induction bs generalizing s with
  | nil =>
    rw [← show replacement = c by simpa [decodeFrom, piecesFrom] using hc, toNat_replacement]
    decide
  | cons b bs ih =>
    rw [decodeFrom_cons] at hc
    simp only [step] at hc
    split_ifs at hc with hb hdue
    · rw [← Option.some.inj hc]
      exact hs.last hb hdue
    · exact ih (hs.next hb hdue) hc
    · rw [← Option.some.inj hc, Piece.toChar_flaw, toNat_replacement]
      decide

/-- An ASCII byte ends what has begun, as the end of the bytes does, and is read as itself. -/
lemma decodeFrom_append_ascii {o : Option Begun} (ho : ∀ s ∈ o, s.Sound) (xs : List UInt8)
    {b : UInt8} (hb : b.toNat < 0x80) (ys : List UInt8) :
    decodeFrom o (xs ++ b :: ys) = decodeFrom o xs ++ Char.ofNat b.toNat :: decodeLossy ys := by
  induction xs generalizing o with
  | nil =>
    rw [List.nil_append, decodeFrom_cons]
    cases o with
    | none => simp [step, start_ascii hb, decodeFrom, piecesFrom, decodeLossy, Utf8.pieces]
    | some s =>
      have hlow : ¬(s.low ≤ b.toNat ∧ b.toNat ≤ s.high) := by
        have := (ho s rfl).low
        omega
      simp [step, hlow, start_ascii hb, decodeFrom, piecesFrom, decodeLossy, Utf8.pieces]
  | cons x xs ih =>
    rw [List.cons_append, decodeFrom_cons, decodeFrom_cons, ih (sound_step ho x), List.append_assoc]

/-! ### Lenient reading -/

lemma sound_none : ∀ s ∈ (none : Option Begun), s.Sound := by simp

/-- Lenient reading commutes with a cut at an ASCII byte. -/
theorem decodeLossy_append_ascii (xs : List UInt8) {b : UInt8} (hb : b.toNat < 0x80)
    (ys : List UInt8) :
    decodeLossy (xs ++ b :: ys) = decodeLossy xs ++ Char.ofNat b.toNat :: decodeLossy ys :=
  decodeFrom_append_ascii sound_none xs hb ys

lemma decodeLossy_cons_ascii {b : UInt8} (hb : b.toNat < 0x80) (bs : List UInt8) :
    decodeLossy (b :: bs) = Char.ofNat b.toNat :: decodeLossy bs :=
  decodeLossy_append_ascii [] hb bs

/-- Each ASCII character of a text that was read is one of the bytes. -/
lemma exists_byte_of_mem {bs : List UInt8} {c : Char} (hc : c ∈ decodeLossy bs)
    (hascii : c.toNat < 0x80) : ∃ b ∈ bs, c = Char.ofNat b.toNat := by
  rcases mem_decodeFrom sound_none hc with h | ⟨b, hb, -, h⟩
  · omega
  · exact ⟨b, hb, h⟩

/-- The ASCII characters of a text that was read are the ASCII bytes. -/
theorem mem_decodeLossy {bs : List UInt8} {b : UInt8} (hb : b.toNat < 0x80) :
    Char.ofNat b.toNat ∈ decodeLossy bs ↔ b ∈ bs := by
  constructor
  · intro h
    obtain ⟨a, ha, heq⟩ := exists_byte_of_mem h (by rwa [toNat_ofNat_byte])
    rwa [ofNat_byte_inj heq]
  · intro h
    obtain ⟨xs, ys, rfl⟩ := List.append_of_mem h
    rw [decodeLossy_append_ascii xs hb ys]
    exact List.mem_append_right _ List.mem_cons_self

/-- A first byte is read by itself, or begins a character. -/
lemma decodeLossy_cons (b : UInt8) (bs : List UInt8) :
    (∃ p ∈ (start b).1, decodeLossy (b :: bs) = p.toChar :: decodeLossy bs) ∨
      ∃ s : Begun, s.Sound ∧ decodeLossy (b :: bs) = decodeFrom (some s) bs := by
  have hread : decodeLossy (b :: bs) = (start b).1.map Piece.toChar ++ decodeFrom (start b).2 bs :=
    decodeFrom_cons none b bs
  have hb := firstByte_start b
  generalize start b = f at hb hread
  cases hb with
  | ascii => exact .inl ⟨_, List.mem_cons_self, hread⟩
  | flaw => exact .inl ⟨_, List.mem_cons_self, hread⟩
  | begun hs => exact .inr ⟨_, hs.sound, hread⟩

/-- A text that was read is empty only if there are no bytes. -/
@[simp] theorem decodeLossy_eq_nil {bs : List UInt8} : decodeLossy bs = [] ↔ bs = [] := by
  refine ⟨fun h => ?_, fun h => by rw [h, decodeLossy_nil]⟩
  cases bs with
  | nil => rfl
  | cons b bs =>
    rcases decodeLossy_cons b bs with ⟨p, -, hp⟩ | ⟨s, -, hs⟩
    · simp [hp] at h
    · exact absurd (hs ▸ h) (decodeFrom_some_ne_nil s bs)

/-- A text that was read begins with an ASCII character only if that is the first byte. -/
theorem head?_decodeLossy {bs : List UInt8} {b : UInt8} (hb : b.toNat < 0x80)
    (h : (decodeLossy bs).head? = some (Char.ofNat b.toNat)) : bs.head? = some b := by
  cases bs with
  | nil => simp at h
  | cons a bs =>
    rcases decodeLossy_cons a bs with ⟨p, hp, hread⟩ | ⟨s, hs, hread⟩ <;> rw [hread] at h
    · have hchar : p.toChar = Char.ofNat b.toNat := Option.some.inj h
      rcases mem_start hp with hp | ⟨-, hp⟩
      · rw [hchar, toNat_ofNat_byte] at hp
        omega
      · rw [List.head?_cons, ofNat_byte_inj (hp.symm.trans hchar)]
    · have := head?_decodeFrom_some hs h
      rw [toNat_ofNat_byte] at this
      omega

/-! ### Cuts at ASCII bytes -/

/-- Lenient reading commutes with splitting at any set of ASCII characters. -/
theorem splitOnP_decodeLossy {q : Char → Bool} (hq : ∀ c, q c → c.toNat < 0x80)
    (bs : List UInt8) :
    (decodeLossy bs).splitOnP q =
      (bs.splitOnP fun b => q (Char.ofNat b.toNat)).map decodeLossy := by
  induction bs using cut_induction (p := fun b : UInt8 => q (Char.ofNat b.toNat)) with
  | whole u hu =>
    have htext : ∀ c ∈ decodeLossy u, q c = false := by
      intro c hc
      cases hqc : q c with
      | false => rfl
      | true =>
        obtain ⟨b, hb, rfl⟩ := exists_byte_of_mem hc (hq c hqc)
        exact absurd hqc (by simp [hu b hb])
    rw [List.splitOnP_eq_singleton htext, List.splitOnP_eq_singleton hu, List.map_singleton]
  | cut u b v hb ihu ihv =>
    have hascii : b.toNat < 0x80 := toNat_ofNat_byte b ▸ hq _ hb
    rw [decodeLossy_append_ascii u hascii v, List.splitOnP_append_cons _ _ hb, ihu, ihv,
      List.splitOnP_append_cons u v (p := fun b => q (Char.ofNat b.toNat)) hb, List.map_append]

end AsmLint.Utf8
