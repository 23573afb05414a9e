import AsmLint.Proofs.Text.Utf8

/-!
# Lenient reading by longest flaws

A run of bytes that is the bytes of a character is read as that character. Where no character
stands, the longest run that begins one, or else a single byte, is read as one replacement
character. These two rules leave no choice, and lenient reading is what follows from them
(`reads_iff`). In particular it undoes writing.
-/

namespace AsmLint.Utf8

/-! ### The bytes of a character -/

/-- The last bytes of the character of a code point. -/
def continuations (n : Nat) : Nat → List UInt8
  | 0 => []
  | k + 1 => continuation (n / 64 ^ k) :: continuations n k

lemma toUInt8_eq {n : Nat} {b : UInt8} (h : n = b.toNat) : n.toUInt8 = b := by
  rw [h]
  exact UInt8.ofNat_toNat

lemma toNat_toUInt8 {n : Nat} (h : n < 0x100) : n.toUInt8.toNat = n :=
  Nat.mod_eq_of_lt h

lemma toNat_continuation (n : Nat) : (continuation n).toNat = 0x80 + n % 64 :=
  toNat_toUInt8 (by omega)

lemma encodeChar_two {c : Char} (h : 0x80 ≤ c.toNat) (h' : c.toNat < 0x800) :
    encodeChar c = (0xC0 + c.toNat / 64).toUInt8 :: continuations c.toNat 1 := by
  simp [encodeChar, continuations, h', show ¬c.toNat < 0x80 by omega]

lemma encodeChar_three {c : Char} (h : 0x800 ≤ c.toNat) (h' : c.toNat < 0x10000) :
    encodeChar c = (0xE0 + c.toNat / 4096).toUInt8 :: continuations c.toNat 2 := by
  simp [encodeChar, continuations, h', show ¬c.toNat < 0x80 by omega,
    show ¬c.toNat < 0x800 by omega]

lemma encodeChar_four {c : Char} (h : 0x10000 ≤ c.toNat) :
    encodeChar c = (0xF0 + c.toNat / 262144).toUInt8 :: continuations c.toNat 3 := by
  simp [encodeChar, continuations, show ¬c.toNat < 0x80 by omega,
    show ¬c.toNat < 0x800 by omega, show ¬c.toNat < 0x10000 by omega]

lemma encodeChar_ascii {b : UInt8} (h : b.toNat < 0x80) :
    encodeChar (Char.ofNat b.toNat) = [b] := by
  rw [encodeChar, toNat_ofNat_byte, if_pos h, toUInt8_eq rfl]

/-! ### Characters that have begun -/

/-- The bytes of a character that has begun are those with which all characters begin that it may
still become, and they are what was read so far. -/
structure Begun.Written (s : Begun) : Prop where
  ne_nil : s.bytes ≠ []
  due : 1 ≤ s.due
  range : s.low ≤ s.high
  encodes : ∀ c : Char, s.Spells c.toNat → encodeChar c = s.bytes ++ continuations c.toNat s.due
  reached : ∀ bs, pieces (s.bytes ++ bs) = piecesFrom (some s) bs

lemma openedBy_start {b : UInt8} {s : Begun} (h : start b = ([], some s)) : s.OpenedBy b := by
  have hb := firstByte_start b
  rw [h] at hb
  cases hb with
  | begun hs => exact hs

lemma written_start {b : UInt8} {s : Begun} (h : start b = ([], some s)) : s.Written := by
  obtain ⟨hbytes, hform⟩ := openedBy_start h
  refine ⟨by simp [hbytes], by omega, by omega, fun c hc => ?_, fun bs => ?_⟩
  · obtain ⟨hge, hle⟩ := hc
    rw [hbytes, List.singleton_append]
    rcases hform with ⟨hdue, hform⟩ | ⟨hdue, hform⟩ | ⟨hdue, hform⟩ <;>
      simp only [hdue, Nat.reduceSub, Nat.reducePow, Nat.div_one] at hge hle
    · rw [hdue, encodeChar_two (by omega) (by omega), toUInt8_eq (b := b) (by omega)]
    · rw [hdue, encodeChar_three (by omega) (by omega), toUInt8_eq (b := b) (by omega)]
    · rw [hdue, encodeChar_four (by omega), toUInt8_eq (b := b) (by omega)]
  · rw [hbytes, List.singleton_append, pieces, piecesFrom_cons, step, h]
    rfl

/-- A byte that continues a character is the next byte of all characters it may still become. -/
lemma written_next {s : Begun} (hs : s.Sound) (hw : s.Written) {b : UInt8}
    (hb : s.low ≤ b.toNat ∧ b.toNat ≤ s.high) (hdue : ¬s.due ≤ 1) :
    Begun.Written ⟨s.bytes ++ [b], s.value * 64 + (b.toNat - 0x80), s.due - 1, 0x80, 0xBF⟩ := by
  have hlow := hs.low
  have hhigh := hs.high
  obtain ⟨k, hk⟩ : ∃ k, s.due = k + 2 := ⟨s.due - 2, by omega⟩
  constructor
  case ne_nil => simp
  case due => exact Nat.le_sub_one_of_lt (Nat.lt_of_not_le hdue)
  case range => exact Nat.le_of_ble_eq_true rfl
  case encodes =>
    intro c hc
    rw [hw.encodes c (hc.of_next hlow hb hdue), hk, continuations, List.append_assoc]
    obtain ⟨hge, hle⟩ := hc
    simp only [show s.due - 1 - 1 = k by omega] at hge hle
    have hnext : continuation (c.toNat / 64 ^ (k + 1)) = b := by
      rw [div_pow_succ]
      exact toUInt8_eq (by omega)
    rw [hnext]
    rfl
  case reached =>
    intro bs
    rw [List.append_assoc, List.singleton_append, hw.reached, piecesFrom_cons, step, if_pos hb,
      if_neg hdue]
    rfl

/-- A byte that completes a character is its last byte. -/
lemma written_last {s : Begun} (hs : s.Sound) (hw : s.Written) {b : UInt8}
    (hb : s.low ≤ b.toNat ∧ b.toNat ≤ s.high) (hdue : s.due ≤ 1) :
    encodeChar (Char.ofNat (s.value * 64 + (b.toNat - 0x80))) = s.bytes ++ [b] := by
  have hlow := hs.low
  have hhigh := hs.high
  have hone : s.due = 1 := Nat.le_antisymm hdue hw.due
  have hspells : s.Spells (s.value * 64 + (b.toNat - 0x80)) := by
    unfold Begun.Spells
    simp only [hone, Nat.sub_self, Nat.pow_zero, Nat.div_one]
    omega
  have hn := toNat_ofNat (hs.valid _ hspells).2
  rw [hw.encodes _ (hn.symm ▸ hspells), hn, hone, continuations, continuations, Nat.pow_zero,
    Nat.div_one, continuation, toUInt8_eq (b := b) (by omega)]

/-- What a byte does to a character that has begun. -/
inductive Stepped (s : Begun) (b : UInt8) : List Piece × Option Begun → Prop
  | char {c : Char} (h : encodeChar c = s.bytes ++ [b]) : Stepped s b ([.char c], none)
  | next {s' : Begun} (hbytes : s'.bytes = s.bytes ++ [b]) (hs : s'.Sound) (hw : s'.Written) :
    Stepped s b ([], some s')
  | broken : Stepped s b (.flaw s.bytes .broken :: (start b).1, (start b).2)

lemma stepped {s : Begun} (hs : s.Sound) (hw : s.Written) (b : UInt8) :
    Stepped s b (step (some s) b) := by
  simp only [step]
  split_ifs with hb hdue
  · exact .char (written_last hs hw hb hdue)
  · exact .next rfl (hs.next hb hdue) (written_next hs hw hb hdue)
  · exact .broken

/-! ### Characters that are read -/

/-- The first byte of a character begins it. -/
lemma exists_begun {c : Char} (h : 0x80 ≤ c.toNat) :
    ∃ b s, start b = ([], some s) ∧ s.Spells c.toNat ∧
      encodeChar c = b :: continuations c.toNat s.due := by
  have hvalid : c.toNat < 0xD800 ∨ 0xDFFF < c.toNat ∧ c.toNat < 0x110000 := c.valid
  obtain ⟨b, k, hb, hk⟩ : ∃ b k, encodeChar c = b :: continuations c.toNat k ∧
      (c.toNat < 0x800 ∧ b.toNat = 0xC0 + c.toNat / 64 ∨
        0x800 ≤ c.toNat ∧ c.toNat < 0x10000 ∧ b.toNat = 0xE0 + c.toNat / 4096 ∨
        0x10000 ≤ c.toNat ∧ b.toNat = 0xF0 + c.toNat / 262144) := by
    by_cases htwo : c.toNat < 0x800
    · exact ⟨_, 1, encodeChar_two h htwo, .inl ⟨htwo, toNat_toUInt8 (by omega)⟩⟩
    by_cases hthree : c.toNat < 0x10000
    · exact ⟨_, 2, encodeChar_three (by omega) hthree,
        .inr (.inl ⟨by omega, hthree, toNat_toUInt8 (by omega)⟩)⟩
    · exact ⟨_, 3, encodeChar_four (by omega), .inr (.inr ⟨by omega, toNat_toUInt8 (by omega)⟩)⟩
  obtain ⟨s, hs, hspells⟩ : ∃ s, start b = ([], some s) ∧ s.Spells c.toNat := by
    have hfirst := firstByte_start b
    generalize start b = f at hfirst
    cases hfirst with
    | ascii => omega
    | flaw => omega
    | @begun s hs =>
      refine ⟨s, rfl, ?_⟩
      unfold Begun.Spells
      rcases hs.form with ⟨hdue, hform⟩ | ⟨hdue, hform⟩ | ⟨hdue, hform⟩ <;>
        simp only [hdue, Nat.reduceSub, Nat.reducePow, Nat.div_one] <;> omega
  refine ⟨b, s, hs, hspells, ?_⟩
  rw [(written_start hs).encodes c hspells, (openedBy_start hs).bytes, List.singleton_append]

/-- A byte of a character is in the range of the next byte and adds its bits to the code point. -/
lemma continuation_range {s : Begun} (hs : s.Sound) (hw : s.Written) {k : Nat} (hk : s.due = k + 1)
    {n : Nat} (hn : s.Spells n) :
    (s.low ≤ (continuation (n / 64 ^ k)).toNat ∧ (continuation (n / 64 ^ k)).toNat ≤ s.high) ∧
      s.value * 64 + ((continuation (n / 64 ^ k)).toNat - 0x80) = n / 64 ^ k := by
  have hlow := hs.low
  have hhigh := hs.high
  have hrange := hw.range
  obtain ⟨hge, hle⟩ := hn
  rw [hk, Nat.add_sub_cancel] at hge hle
  rw [toNat_continuation]
  omega

/-- The last bytes of a character complete it. -/
lemma piecesFrom_continuations {s : Begun} (hs : s.Sound) (hw : s.Written) {k : Nat}
    (hk : s.due = k + 1) {c : Char} (hc : s.Spells c.toNat) (bs : List UInt8) :
    piecesFrom (some s) (continuations c.toNat (k + 1) ++ bs) = .char c :: pieces bs := by
  induction k generalizing s with
  | zero =>
    obtain ⟨hb, hvalue⟩ := continuation_range hs hw hk hc
    rw [continuations, List.cons_append, piecesFrom_cons, step, if_pos hb, if_pos (by omega),
      hvalue,
      Nat.pow_zero, Nat.div_one, Char.ofNat_toNat]
    rfl
  | succ k ih =>
    obtain ⟨hb, hvalue⟩ := continuation_range hs hw hk hc
    have hdue : ¬s.due ≤ 1 := by omega
    rw [continuations, List.cons_append, piecesFrom_cons, step, if_pos hb, if_neg hdue]
    refine ih (hs.next hb hdue) (written_next hs hw hb hdue) (by dsimp only; omega) ?_
    rw [div_pow_succ] at hvalue
    simp only [Begun.Spells, div_pow_succ, hvalue, show s.due - 1 - 1 = k by omega]
    omega

/-- Reading undoes writing, whatever follows. -/
theorem pieces_encodeChar_append (c : Char) (bs : List UInt8) :
    pieces (encodeChar c ++ bs) = .char c :: pieces bs := by
  by_cases h : c.toNat < 0x80
  · have hb := toNat_toUInt8 (n := c.toNat) (by omega)
    rw [encodeChar, if_pos h, List.singleton_append, pieces, piecesFrom_cons, step,
      start_ascii (by omega), hb, Char.ofNat_toNat]
    rfl
  · obtain ⟨b, s, hs, hspells, hencode⟩ := exists_begun (c := c) (by omega)
    obtain ⟨k, hk⟩ : ∃ k, s.due = k + 1 :=
      ⟨s.due - 1, by have := (written_start hs).due; omega⟩
    rw [hencode, List.cons_append, pieces, piecesFrom_cons, step, hs, hk]
    exact piecesFrom_continuations (sound_start (by rw [hs])) (written_start hs) hk hspells bs

/-- A written text is read back. -/
theorem decodeLossy_encode_append (t : Text) (bs : List UInt8) :
    decodeLossy (encode t ++ bs) = t ++ decodeLossy bs := by
  induction t with
  | nil => rfl
  | cons c t ih =>
    rw [encode_cons, List.append_assoc, decodeLossy, pieces_encodeChar_append, List.map_cons,
      ← decodeLossy, ih]
    rfl

lemma decodeLossy_encode (t : Text) : decodeLossy (encode t) = t := by
  simpa using decodeLossy_encode_append t []

@[simp] lemma encode_eq_nil {t : Text} : encode t = [] ↔ t = [] := by
  rw [← decodeLossy_eq_nil, decodeLossy_encode]

/-! ### Flaws -/

/-- Whether bytes are the first bytes of a character. -/
def Begins (bs : List UInt8) : Prop := ∃ c, bs <+: encodeChar c

/-- The bytes `m` are the flaw in front of `bs`: no character stands there, and they are the longest
run that begins one, or a single byte. -/
structure Flawed (m bs : List UInt8) : Prop where
  ne_nil : m ≠ []
  no_char : ∀ c, ¬encodeChar c <+: m ++ bs
  begins : m.length = 1 ∨ Begins m
  longest : ∀ b ∈ bs.head?, ¬Begins (m ++ [b])

/-- The text that bytes are read as. -/
inductive Reads : List UInt8 → Text → Prop
  | nil : Reads [] []
  | char (c : Char) {bs : List UInt8} {t : Text} (h : Reads bs t) :
    Reads (encodeChar c ++ bs) (c :: t)
  | flaw {m bs : List UInt8} {t : Text} (hm : Flawed m bs) (h : Reads bs t) :
    Reads (m ++ bs) (replacement :: t)

/-- Where a flaw is read, no character stands. -/
lemma no_char_of_pieces {bs m : List UInt8} {why : Flaw} {ps : List Piece}
    (h : pieces bs = .flaw m why :: ps) (c : Char) : ¬encodeChar c <+: bs := by
  rintro ⟨rest, rfl⟩
  rw [pieces_encodeChar_append] at h
  cases h

/-- Where a flaw is read, whatever follows the bytes `m`, no character begins with them. -/
lemma not_begins_of_pieces {m : List UInt8}
    (h : ∀ bs, ∃ l why ps, pieces (m ++ bs) = .flaw l why :: ps) : ¬Begins m := by
  rintro ⟨c, bs, hc⟩
  obtain ⟨l, why, ps, hps⟩ := h bs
  exact no_char_of_pieces hps c (hc ▸ List.prefix_refl _)

/-- What has begun is the beginning of some character. -/
lemma begins_bytes {s : Begun} (hs : s.Sound) (hw : s.Written) : Begins s.bytes := by
  have hspells : s.Spells ((s.value * 64 + (s.low - 0x80)) * 64 ^ (s.due - 1)) := by
    have hrange := hw.range
    rw [Begun.Spells, Nat.mul_div_cancel _ (Nat.pow_pos (by decide))]
    omega
  have hn := toNat_ofNat (hs.valid _ hspells).2
  exact ⟨Char.ofNat _, _, (hw.encodes _ (hn.symm ▸ hspells)).symm⟩

/-- What is read first: a character or a flaw. -/
inductive FirstPiece (bs : List UInt8) : List Piece → Prop
  | char (c : Char) (rest : List UInt8) (h : bs = encodeChar c ++ rest) :
    FirstPiece bs (.char c :: pieces rest)
  | flaw (m rest : List UInt8) (why : Flaw) (h : bs = m ++ rest) (hm : Flawed m rest) :
    FirstPiece bs (.flaw m why :: pieces rest)

lemma firstPiece_begun {s : Begun} (hs : s.Sound) (hw : s.Written) (bs : List UInt8) :
    FirstPiece (s.bytes ++ bs) (piecesFrom (some s) bs) := by
  induction bs generalizing s with
  | nil =>
    refine .flaw s.bytes [] .truncated rfl ⟨hw.ne_nil, ?_, .inr (begins_bytes hs hw), by simp⟩
    exact no_char_of_pieces (hw.reached [])
  | cons b bs ih =>
    have hstep (bs : List UInt8) : pieces (s.bytes ++ b :: bs) =
        (step (some s) b).1 ++ piecesFrom (step (some s) b).2 bs := hw.reached (b :: bs)
    have hb := stepped hs hw b
    rw [piecesFrom_cons]
    generalize step (some s) b = f at hb hstep
    cases hb with
    | char h =>
      refine .char _ bs ?_
      rw [h, List.append_assoc, List.singleton_append]
    | next hbytes hs' hw' =>
      have hread := ih hs' hw'
      rwa [hbytes, List.append_assoc, List.singleton_append] at hread
    | broken =>
      refine .flaw s.bytes (b :: bs) .broken rfl ⟨hw.ne_nil, ?_, .inr (begins_bytes hs hw), ?_⟩
      · exact no_char_of_pieces (hstep bs)
      · rintro _ ⟨⟩
        apply not_begins_of_pieces
        intro rest
        rw [List.append_assoc, List.singleton_append]
        exact ⟨_, _, _, hstep rest⟩

/-- What is read first of bytes is a character or the flaw in front of the others. -/
theorem firstPiece_cons (b : UInt8) (bs : List UInt8) :
    FirstPiece (b :: bs) (pieces (b :: bs)) := by
  have hpieces (bs : List UInt8) :
      pieces (b :: bs) = (start b).1 ++ piecesFrom (start b).2 bs := piecesFrom_cons none b bs
  have hb := firstByte_start b
  rw [hpieces]
  generalize hf : start b = f at hb hpieces
  cases hb with
  | ascii h => exact .char _ bs (by rw [encodeChar_ascii h]; rfl)
  | flaw =>
    refine .flaw [b] bs .start rfl ⟨List.cons_ne_nil b [], ?_, .inl rfl, ?_⟩
    · exact no_char_of_pieces (hpieces bs)
    · rintro a -
      apply not_begins_of_pieces
      intro rest
      exact ⟨_, _, _, hpieces (a :: rest)⟩
  | @begun s hs =>
    have hread := firstPiece_begun hs.sound (written_start hf) bs
    rwa [hs.bytes] at hread

/-! ### What is read -/

lemma encodeChar_ne_nil (c : Char) : encodeChar c ≠ [] := by
  rw [encodeChar]
  split_ifs <;> simp

lemma Flawed.not_longer {m bs bs' : List UInt8} {b : UInt8} {a : List UInt8}
    (hm : Flawed m (b :: a ++ bs)) (hm' : Flawed (m ++ b :: a) bs') : False := by
  apply hm.longest b rfl
  rcases hm'.begins with hlength | ⟨c, hc⟩
  · have := List.length_pos_iff.mpr hm.ne_nil
    simp only [List.length_append, List.length_cons] at hlength
    omega
  · exact ⟨c, List.IsPrefix.trans ⟨a, by simp⟩ hc⟩

/-- Bytes have one flaw in front at most. -/
lemma Flawed.unique {m m' bs bs' : List UInt8} (hm : Flawed m bs) (hm' : Flawed m' bs')
    (h : m ++ bs = m' ++ bs') : m = m' ∧ bs = bs' := by
  rcases List.append_eq_append_iff.mp h with ⟨a, rfl, rfl⟩ | ⟨a, rfl, rfl⟩ <;> cases a with
  | nil => simp
  | cons b a =>
    exfalso
    first | exact hm.not_longer hm' | exact hm'.not_longer hm

/-- Lenient reading is the reading of bytes as characters and longest flaws. -/
theorem reads_iff {bs : List UInt8} {t : Text} : Reads bs t ↔ decodeLossy bs = t := by
  constructor
  · intro h
    induction h with
    | nil => rfl
    | char c h ih =>
      rw [decodeLossy, pieces_encodeChar_append, List.map_cons, ← decodeLossy, ih]
      rfl
    | @flaw m bs t hm h ih =>
      obtain ⟨b, rest, hcons⟩ :=
        List.exists_cons_of_ne_nil (List.append_ne_nil_of_left_ne_nil hm.ne_nil bs)
      have hp := firstPiece_cons b rest
      rw [hcons, decodeLossy]
      generalize pieces (b :: rest) = ps at hp
      cases hp with
      | char c rest' hc => exact absurd ⟨rest', by rw [hcons, hc]⟩ (hm.no_char c)
      | flaw m' rest' why hm'cons hm' =>
        obtain ⟨-, rfl⟩ := hm.unique hm' (hcons.trans hm'cons)
        rw [List.map_cons, ← decodeLossy, ih]
        rfl
  · rintro rfl
    induction hn : bs.length using Nat.strongRecOn generalizing bs with
    | ind n ih =>
      cases bs with
      | nil => exact .nil
      | cons b bs =>
        have hp := firstPiece_cons b bs
        rw [decodeLossy]
        generalize pieces (b :: bs) = ps at hp
        cases hp with
        | char c rest hc =>
          have hlength := List.length_pos_iff.mpr (encodeChar_ne_nil c)
          rw [hc] at hn ⊢
          rw [List.length_append] at hn
          exact .char c (ih rest.length (by omega) rfl)
        | flaw m rest why hmcons hm =>
          have hlength := List.length_pos_iff.mpr hm.ne_nil
          rw [hmcons] at hn ⊢
          rw [List.length_append] at hn
          exact .flaw hm (ih rest.length (by omega) rfl)

end AsmLint.Utf8
