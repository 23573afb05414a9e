import AsmLint.Proofs.Text.Lines

/-!
# Lines that are replaced

Each line of a list is exchanged for another, and every terminator stays. What is written for a line
holds no terminator and is empty just when the line is, so it grows together neither with the line
before it nor with the line behind it: a carriage return that ended a line alone still does so.
-/

namespace AsmLint

open LineAlphabet

section

variable {α : Type} [LineAlphabet α]

/-- Whether a function gives for a line another line, and none for none. -/
structure KeepsLines (f : List α → List α) : Prop where
  unbroken : ∀ {u}, Unbroken u → Unbroken (f u)
  eq_nil : ∀ {u}, f u = [] ↔ u = []

variable [DecidableEq α]

/-- A list with each line replaced, and with every terminator as it is. -/
def mapLines (f : List α → List α) (t : List α) : List α :=
  (endedLines t).flatMap fun x => f x.1 ++ x.2

variable {f : List α → List α}

lemma mapLines_append (f : List α → List α) {u e t : List α} (hu : Unbroken u) (he : Ends e t) :
    mapLines f (u ++ e ++ t) = f u ++ e ++ mapLines f t := by
  rw [mapLines, endedLines_append hu he, List.flatMap_cons, ← mapLines]

lemma mapLines_unbroken (hf : KeepsLines f) {u : List α} (hu : Unbroken u) :
    mapLines f u = f u := by
  rw [mapLines, endedLines_unbroken hu]
  split_ifs with h
  · rw [List.flatMap_nil, hf.eq_nil.mpr h]
  · simp

lemma head?_mapLines (hf : KeepsLines f) {t : List α}
    (h : (mapLines f t).head? = some lineFeed) : t.head? = some lineFeed := by
  have hline {u v : List α} (hu : Unbroken u) (h : (f u ++ v).head? = some lineFeed) :
      u = [] ∧ v.head? = some lineFeed := by
    cases hfu : f u with
    | nil => exact ⟨hf.eq_nil.mp hfu, by rwa [hfu] at h⟩
    | cons a w =>
      rw [hfu] at h
      obtain rfl := Option.some.inj h
      exact absurd (hfu ▸ List.mem_cons_self) (hf.unbroken hu).2
  rcases unbroken_or_ends t with ht | ⟨u, e, s, hu, he, rfl⟩
  · rw [mapLines_unbroken hf ht, ← List.append_nil (f t)] at h
    simpa using (hline ht h).2
  · rw [mapLines_append f hu he, List.append_assoc] at h
    obtain ⟨rfl, hhead⟩ := hline hu h
    cases he <;> exact hhead

lemma Ends.mapLines (hf : KeepsLines f) {e t : List α} (he : Ends e t) :
    Ends e (mapLines f t) := by
  cases he with
  | lf => exact .lf _
  | crlf => exact .crlf _
  | cr h => exact .cr fun hhead => h (head?_mapLines hf hhead)

/-- The lines are those that were put in, one for each line that was there. -/
theorem cutLines_mapLines (hf : KeepsLines f) (t : List α) :
    cutLines (mapLines f t) = (cutLines t).map f := by
  induction t using lines_induction with
  | last u hu =>
    rw [mapLines_unbroken hf hu, cutLines_unbroken hu, cutLines_unbroken (hf.unbroken hu)]
    simp only [hf.eq_nil]
    split_ifs <;> rfl
  | line u e t hu he ih =>
    rw [mapLines_append f hu he, cutLines_append (hf.unbroken hu) (he.mapLines hf),
      cutLines_append hu he, List.map_cons, ih]

end

end AsmLint
