import AsmLint.Proofs.Report.Blocks
import AsmLint.Proofs.Statement.Words
import Mathlib.Data.List.Forall2

/-!
# Reading reports back

A report is read line by line: the number stands between two fixed texts, one of the five messages
and a quote follow it, and no two messages agree up to the quote. So the token of a breach is what
is left without its last character, whatever quotes or brackets it holds. Findings of one number are
then gathered into one.
-/

namespace AsmLint

/-- What a report tells of a line: its words if it is valid, or else the message and the token of
each breach. -/
inductive Finding where
  | valid (words : List Text)
  | invalid (breaches : List (Text × Text))
deriving DecidableEq, Repr

/-- What is reported of a verdict. -/
def Verdict.finding (v : Verdict) : Finding :=
  if v.isValid then .valid v.words else .invalid (v.violations.map fun x => (x.message, x.token))

/-- Verdicts that agree in all that is reported of them. -/
structure Verdict.Agrees (v w : Verdict) : Prop where
  isValid : v.isValid = w.isValid
  words : v.isValid = true → v.words = w.words
  breaches : v.isValid = false →
    v.violations.map (fun x => (x.message, x.token)) =
      w.violations.map fun x => (x.message, x.token)

lemma Verdict.agrees_of_finding_eq {v w : Verdict} (h : v.finding = w.finding) : v.Agrees w := by
  unfold Verdict.finding at h
  cases hv : v.isValid <;> cases hw : w.isValid <;> constructor <;> simp_all

/-! ### Reading a line -/

/-- The number in a line between two given texts, the first of which starts the line, and what
follows the second. -/
def readNumber? (start stop line : Text) : Option (Nat × Text) :=
  (line.dropPrefix? start).bind fun t =>
    ((t.dropWhile Char.isDigit).dropPrefix? stop).map fun rest =>
      (Nat.ofDigitChars 10 (t.takeWhile Char.isDigit) 0, rest)

/-- What stands in front of a token in the report on a breach. -/
def Role.opening (r : Role) : Text := r.message ++ " '"

/-- The message and the token of a breach. -/
def readBreach? (t : Text) : Option (Text × Text) :=
  Role.all.findSome? fun r =>
    (t.dropPrefix? r.opening).map fun rest => (r.message, rest.dropLast)

/-- The number of a line of the report, and what is found there. -/
def readLine? (line : Text) : Option (Nat × Finding) :=
  match readNumber? "[VALID] Line " ": " line with
  | some (number, rest) => some (number, .valid (words rest))
  | none =>
    (readNumber? "Error (Line " "): " line).bind fun x =>
      (readBreach? x.2).map fun breach => (x.1, .invalid [breach])

lemma readNumber?_append (start : Text) (number : Nat) {c : Char} (hc : c.isDigit = false)
    (stop rest : Text) :
    readNumber? start (c :: stop) (start ++ decimal number ++ c :: stop ++ rest) =
      some (number, rest) := by
  have hdigit : ∀ d ∈ decimal number, d.isDigit = true := fun d hd => isDigit_of_mem_decimal hd
  unfold readNumber?
  rw [List.append_assoc, List.append_assoc, List.dropPrefix?_append_of_beq _ (by simp),
    Option.bind_some, List.takeWhile_append_of_pos hdigit, List.dropWhile_append_of_pos hdigit,
    List.cons_append, List.takeWhile_cons_of_neg (by simp [hc]),
    List.dropWhile_cons_of_neg (by simp [hc]), List.append_nil, ofDigitChars_decimal,
    ← List.cons_append, List.dropPrefix?_append_of_beq _ (by simp), Option.map_some]

/-- No message with its quote starts another. -/
lemma Role.opening_inj {r r' : Role} (h : r.opening <+: r'.opening) : r = r' := by
  cases r <;> cases r' <;> first | rfl | (revert h; decide)

lemma readBreach?_opening (r : Role) (token : Text) :
    readBreach? (r.opening ++ (token ++ ['\''])) = some (r.message, token) := by
  have hread (r' : Role) :
      ((r.opening ++ (token ++ ['\''])).dropPrefix? r'.opening).map
          (fun rest => (r'.message, rest.dropLast)) =
        if r' = r then some (r.message, token) else none := by
    split_ifs with hr
    · rw [hr, List.dropPrefix?_append_of_beq _ (by simp), Option.map_some, List.dropLast_concat]
    · rw [Option.map_eq_none_iff, Option.eq_none_iff_forall_ne_some]
      intro rest hrest
      obtain ⟨p, hp, hbeq⟩ := List.dropPrefix?_eq_some_iff.mp hrest
      rw [eq_of_beq hbeq] at hp
      have hfound : r'.opening <+: r.opening ++ (token ++ ['\'']) := ⟨rest, hp.symm⟩
      rcases List.prefix_or_prefix_of_prefix hfound (List.prefix_append _ _) with h | h
      · exact hr (Role.opening_inj h)
      · exact hr (Role.opening_inj h).symm
  unfold readBreach?
  simp only [hread]
  cases r <;> rfl

lemma readLine?_validLine {ws : List Text}
    (h : ∀ w ∈ ws, w ≠ [] ∧ ∀ c ∈ w, isDelimiter c = false) (number : Nat) :
    readLine? (validLine number ws) = some (number, .valid ws) := by
  have hnumber : readNumber? "[VALID] Line " ": " (validLine number ws) =
      some (number, ws.flatMap (· ++ [' '])) := by
    rw [validLine_natCast]
    exact readNumber?_append _ number (by decide) [' '] _
  unfold readLine?
  rw [hnumber]
  simp only [words_flatMap_space h]

lemma readLine?_errorLine (r : Role) (token : Text) (number : Nat) :
    readLine? (errorLine number r.message token) =
      some (number, .invalid [(r.message, token)]) := by
  have hvalid : readNumber? "[VALID] Line " ": " (errorLine number r.message token) = none := rfl
  have hbreach : errorLine number r.message token =
      "Error (Line " ++ decimal number ++ "): " ++ (r.opening ++ (token ++ ['\''])) := by
    rw [errorLine_natCast]
    unfold errorStart Role.opening
    simp only [List.append_assoc]
    rfl
  have hnumber : readNumber? "Error (Line " "): " (errorLine number r.message token) =
      some (number, r.opening ++ (token ++ ['\''])) := by
    rw [hbreach]
    exact readNumber?_append _ number (by decide) [':', ' '] _
  unfold readLine?
  rw [hvalid, hnumber]
  simp only [Option.bind_some, readBreach?_opening, Option.map_some]

/-! ### Reading a report -/

/-- The findings in the single lines of the report on a verdict. -/
def Verdict.entries (number : Nat) (v : Verdict) : List (Nat × Finding) :=
  if v.isValid then [(number, .valid v.words)]
  else v.violations.map fun x => (number, .invalid [(x.message, x.token)])

lemma mapM_map_eq_some {α β γ : Type} {f : β → Option γ} {g : α → β} {k : α → γ} {l : List α}
    (h : ∀ a ∈ l, f (g a) = some (k a)) : (l.map g).mapM f = some (l.map k) := by
  induction l with
  | nil => rfl
  | cons a l ih =>
    obtain ⟨ha, hl⟩ := List.forall_mem_cons.mp h
    simp [ha, ih hl]

lemma mapM_readLine?_report {ws : List Text}
    (h : ∀ w ∈ ws, w ≠ [] ∧ ∀ c ∈ w, isDelimiter c = false) (reject : Bool) (number : Nat) :
    ((judge ws reject).report number).mapM readLine? =
      some ((judge ws reject).entries number) := by
  unfold Verdict.report Verdict.entries
  split_ifs
  · simp [readLine?_validLine h number]
  · apply mapM_map_eq_some
    intro x hx
    obtain ⟨r, hr⟩ := (mem_violations_judge hx).2
    rw [hr, readLine?_errorLine]

/-- Two findings on one line as one. -/
def Finding.join : Finding → Finding → Finding
  | .invalid bs, .invalid cs => .invalid (bs ++ cs)
  | f, _ => f

/-- Findings of one number that follow each other, as one. -/
def gather : List (Nat × Finding) → List (Nat × Finding)
  | [] => []
  | x :: rest =>
    match gather rest with
    | [] => [x]
    | y :: later => if x.1 = y.1 then (x.1, x.2.join y.2) :: later else x :: y :: later

lemma gather_cons {x : Nat × Finding} {rest : List (Nat × Finding)}
    (h : ∀ y ∈ (gather rest).head?, y.1 ≠ x.1) : gather (x :: rest) = x :: gather rest := by
  rw [gather]
  cases hg : gather rest with
  | nil => rfl
  | cons y later =>
    have hne : y.1 ≠ x.1 := h y (by rw [hg]; rfl)
    simp [hne.symm]

lemma gather_invalid {number : Nat} {breaches : List (Text × Text)} (hne : breaches ≠ [])
    {rest : List (Nat × Finding)} (h : ∀ y ∈ (gather rest).head?, y.1 ≠ number) :
    gather (breaches.map (fun b => (number, .invalid [b])) ++ rest) =
      (number, .invalid breaches) :: gather rest := by
  induction breaches with
  | nil => exact absurd rfl hne
  | cons b bs ih =>
    cases bs with
    | nil => exact gather_cons h
    | cons b' bs =>
      rw [List.map_cons, List.cons_append, gather, ih (by simp)]
      simp [Finding.join]

lemma gather_entries (v : Verdict) {number : Nat} {rest : List (Nat × Finding)}
    (h : ∀ y ∈ (gather rest).head?, y.1 ≠ number) :
    gather (v.entries number ++ rest) = (number, v.finding) :: gather rest := by
  unfold Verdict.entries Verdict.finding
  cases hv : v.isValid with
  | true => exact gather_cons h
  | false =>
    have hne : v.violations.map (fun x => (x.message, x.token)) ≠ [] := by
      simpa [Verdict.isValid] using hv
    simpa [Function.comp_def] using gather_invalid hne h

/-- The numbers of the lines that a report is on, each with what is found there. -/
def readReport (report : Text) : Option (List (Nat × Finding)) :=
  ((report.splitOn '\n').dropLast.mapM readLine?).map gather

/-- The single findings on numbered lines. -/
def lineEntries (o : CheckOptions) (number : Nat) (lines : List Text) : List (Nat × Finding) :=
  (lines.zipIdx number).flatMap fun x => (Judgement.ofWords o (words x.1)).verdict.entries x.2

lemma mapM_readLine?_lineBlocks (o : CheckOptions) (number : Nat) (lines : List Text) :
    ((lineBlocks o number lines).flatMap Block.report).mapM readLine? =
      some (lineEntries o number lines) := by
  induction lines generalizing number with
  | nil => rfl
  | cons line lines ih =>
    have hwords : ∀ w ∈ (Statement.ofWords (words line) o.maxTokens).words,
        w ≠ [] ∧ ∀ c ∈ w, isDelimiter c = false := by
      intro w hw
      rw [Statement.words_ofWords] at hw
      obtain ⟨hne, hc⟩ := mem_words (List.mem_of_mem_take hw)
      exact ⟨hne, fun c h => (hc c h).1⟩
    have hline : (Block.ofWords o number (words line)).report.mapM readLine? =
        some ((Judgement.ofWords o (words line)).verdict.entries number) :=
      mapM_readLine?_report hwords o.rejectUnsupported number
    rw [lineBlocks_cons, List.flatMap_cons, List.mapM_append, hline, ih (number + 1)]
    rfl

/-- What is found on the lines of numbered judgements. -/
def findings (number : Nat) (js : List Judgement) : List (Nat × Finding) :=
  (js.zipIdx number).map fun x => (x.2, x.1.verdict.finding)

/-- The judgements on unbroken lines. -/
def lineJudgements (o : CheckOptions) (lines : List Text) : List Judgement :=
  lines.map fun line => .ofWords o (words line)

lemma gather_lineEntries (o : CheckOptions) (number : Nat) (lines : List Text) :
    gather (lineEntries o number lines) = findings number (lineJudgements o lines) := by
  induction lines generalizing number with
  | nil => rfl
  | cons line lines ih =>
    have hentries : lineEntries o number (line :: lines) =
        (Judgement.ofWords o (words line)).verdict.entries number ++
          lineEntries o (number + 1) lines := rfl
    rw [hentries, gather_entries, ih (number + 1)]
    · rfl
    · rw [ih (number + 1)]
      cases lines <;> simp [findings, lineJudgements]

lemma mapM_judgeLine {o : CheckOptions} (ho : 1 ≤ o.maxTokens) {lines : List Text}
    (h : ∀ line ∈ lines, Unbroken line) :
    lines.mapM (judgeLine o) = .ok (lineJudgements o lines) := by
  induction lines with
  | nil => rfl
  | cons line lines ih =>
    obtain ⟨hline, hlines⟩ := List.forall_mem_cons.mp h
    rw [List.mapM_cons, judgeLine_unbroken ho hline, ih hlines]
    rfl

/-- The report of a run is read back. -/
lemma readReport_out {ε : Type} {o : CheckOptions} (ho : 1 ≤ o.maxTokens) {f : Feed ε}
    (h : ∀ line ∈ f.lines, Unbroken line) :
    readReport (f.check o).out = some (findings 1 (lineJudgements o f.lines)) := by
  rw [Feed.check_unbroken ho h, readReport, (splitOn_lineBlocks o h _).1, List.dropLast_concat,
    mapM_readLine?_lineBlocks, Option.map_some, gather_lineEntries]

lemma agrees_of_findings_eq {number : Nat} {js₁ js₂ : List Judgement}
    (h : findings number js₁ = findings number js₂) :
    List.Forall₂ (fun j₁ j₂ => j₁.verdict.Agrees j₂.verdict) js₁ js₂ := by
  induction js₁ generalizing number js₂ with
  | nil =>
    cases js₂ with
    | nil => exact .nil
    | cons j₂ js₂ => simp [findings] at h
  | cons j₁ js₁ ih =>
    cases js₂ with
    | nil => simp [findings] at h
    | cons j₂ js₂ =>
      obtain ⟨hfirst, hrest⟩ := List.cons.inj h
      exact .cons (Verdict.agrees_of_finding_eq (Prod.mk.inj hfirst).2) (ih hrest)

/-- From the report of a run over unbroken lines the findings on all lines are read back. So two
reports are equal only if they are on equally many lines, with verdicts that agree one by one. -/
theorem Feed.report_faithful {ε : Type} {o₁ o₂ : CheckOptions} (h₁ : 1 ≤ o₁.maxTokens)
    (h₂ : 1 ≤ o₂.maxTokens) {lines₁ lines₂ : List Text} (hl₁ : ∀ line ∈ lines₁, Unbroken line)
    (hl₂ : ∀ line ∈ lines₂, Unbroken line) :
    let out₁ := (Feed.check o₁ (⟨lines₁, none⟩ : Feed ε)).out
    let out₂ := (Feed.check o₂ (⟨lines₂, none⟩ : Feed ε)).out
    ∃ js₁ js₂ : List Judgement,
      lines₁.mapM (judgeLine o₁) = .ok js₁ ∧ lines₂.mapM (judgeLine o₂) = .ok js₂ ∧
      readReport out₁ = some (findings 1 js₁) ∧ readReport out₂ = some (findings 1 js₂) ∧
      (out₁ = out₂ → lines₁.length = lines₂.length ∧
        List.Forall₂ (fun j₁ j₂ => j₁.verdict.Agrees j₂.verdict) js₁ js₂) := by
  intro out₁ out₂
  have hread₁ : readReport out₁ = some (findings 1 (lineJudgements o₁ lines₁)) :=
    readReport_out h₁ (f := ⟨lines₁, none⟩) hl₁
  have hread₂ : readReport out₂ = some (findings 1 (lineJudgements o₂ lines₂)) :=
    readReport_out h₂ (f := ⟨lines₂, none⟩) hl₂
  refine ⟨_, _, mapM_judgeLine h₁ hl₁, mapM_judgeLine h₂ hl₂, hread₁, hread₂, fun hout => ?_⟩
  rw [hout, hread₂] at hread₁
  have hagrees := agrees_of_findings_eq (Option.some.inj hread₁).symm
  exact ⟨by simpa [lineJudgements] using hagrees.length_eq, hagrees⟩

/-- Statements with quotes that are told apart by nothing but their blanks, under other options. -/
theorem Feed.report_faithful_quotes :
    let o₁ : CheckOptions := ⟨5, true, false⟩
    let o₂ : CheckOptions := ⟨9, true, true⟩
    let lines₁ : List Text := ["a ' b 'x' ERROR", "STOP"]
    let lines₂ : List Text := ["a\t' b  'x' ERROR ", "STOP"]
    let out₁ := (Feed.check o₁ (⟨lines₁, none⟩ : Feed SystemError)).out
    let out₂ := (Feed.check o₂ (⟨lines₂, none⟩ : Feed SystemError)).out
    1 ≤ o₁.maxTokens ∧ 1 ≤ o₂.maxTokens ∧ (∀ line ∈ lines₁, Unbroken line) ∧
    (∀ line ∈ lines₂, Unbroken line) ∧ out₁ = out₂ ∧
    ∃ js₁ js₂ : List Judgement,
      lines₁.mapM (judgeLine o₁) = .ok js₁ ∧ lines₂.mapM (judgeLine o₂) = .ok js₂ ∧
      readReport out₁ = some (findings 1 js₁) ∧ readReport out₂ = some (findings 1 js₂) ∧
      (out₁ = out₂ → lines₁.length = lines₂.length ∧
        List.Forall₂ (fun j₁ j₂ => j₁.verdict.Agrees j₂.verdict) js₁ js₂) :=
  ⟨by decide, by decide, by decide, by decide, by decide,
    Feed.report_faithful (by decide) (by decide) (by decide) (by decide)⟩

end AsmLint
