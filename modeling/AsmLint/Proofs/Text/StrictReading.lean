import AsmLint.Proofs.Text.Decoding
import AsmLint.Text.LineBreak

/-!
# Strict reading

Strict reading undoes writing and takes nothing else: the bytes that it reads as a text are the
bytes of that text.
-/

namespace AsmLint

namespace Utf8

variable {bs : List UInt8} {t : Text}

lemma textOf_char_eq_ok {position : Nat} {c : Char} {ps : List Piece}
    (h : Piece.textOf position (.char c :: ps) = .ok t) :
    ∃ t', Piece.textOf (position + (encodeChar c).length) ps = .ok t' ∧ t = c :: t' := by
  rw [Piece.textOf] at h
  cases hps : Piece.textOf (position + (encodeChar c).length) ps with
  | error e => simp [hps, Except.map] at h
  | ok t' =>
    rw [hps] at h
    exact ⟨t', rfl, (Except.ok.inj h).symm⟩

lemma textOf_pieces_encode (position : Nat) (t : Text) :
    Piece.textOf position (pieces (encode t)) = .ok t := by
  induction t generalizing position with
  | nil => rfl
  | cons c t ih =>
    rw [encode_cons, pieces_encodeChar_append, Piece.textOf, ih]
    rfl

lemma eq_encode_of_textOf {position : Nat} (h : Piece.textOf position (pieces bs) = .ok t) :
    bs = encode t := by
  -- a character takes several bytes off, so the induction is on their number
  induction hn : bs.length using Nat.strongRecOn generalizing bs t position with
  | ind n ih =>
    cases bs with
    | nil =>
      obtain rfl := Except.ok.inj h
      rfl
    | cons b bs =>
      have hfirst := firstPiece_cons b bs
      generalize pieces (b :: bs) = ps at h hfirst
      cases hfirst with
      | char c rest hc =>
        obtain ⟨t', hrest, rfl⟩ := textOf_char_eq_ok h
        have hlength := List.length_pos_iff.mpr (encodeChar_ne_nil c)
        rw [hc, List.length_append] at hn
        rw [hc, encode_cons, ih rest.length (by omega) hrest rfl]
      | flaw m rest why hm hflawed => cases h

/-- The bytes that are read strictly as a text are its bytes. -/
theorem decodeStrict?_eq_ok_iff : decodeStrict? bs = .ok t ↔ bs = encode t := by
  constructor
  · exact eq_encode_of_textOf
  · rintro rfl
    exact textOf_pieces_encode 0 t

end Utf8

/-- Without carriage returns every terminator is a line feed already. -/
lemma unifyTerminators_eq_self {t : Text} (h : '\r' ∉ t) : unifyTerminators t = t := by
  fun_induction unifyTerminators t with
  | case1 => rfl
  | case2 t ih => exact absurd List.mem_cons_self h
  | case3 t _ ih => exact absurd List.mem_cons_self h
  | case4 c t _ _ ih => rw [ih fun hr => h (List.mem_cons_of_mem c hr)]

end AsmLint
