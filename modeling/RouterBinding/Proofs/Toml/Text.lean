import RouterBinding.Toml.Lexeme
import RouterBinding.Toml.Text

/-!
# Reading back a string of TOML

A string is written in one of four forms, between quotes or apostrophes, on one line or on several.
`string_write_text` says that it is read back as it was, whatever characters it has, and that what
comes after it is left. Each form has a lemma of its own below, which needs no more of the string
than that form does. Over several lines the quotes at the end of a string run into those that close
it, so that induction there is on the string behind a run of quotes (`basic_lines_run`).
-/

namespace RouterBinding.Toml

/-- What may come after a string in a document: no further delimiter. -/
def AfterText (rest : List Char) : Prop := ∀ c ∈ rest.head?, c ≠ '"' ∧ c ≠ '\''

variable {c : Char} {cs rest : List Char}

/-! ## Characters -/

/-- The four digits of a small code are read as that code. -/
theorem hex_number_upper_hex : ∀ n < 0x80, hexNumber? (upperHex 4 n) = some n := by
  decide

theorem char_of_code_to_nat (c : Char) : charOfCode? c.toNat = some c := by
  have hvalid : c.toNat.isValidChar := c.valid
  rw [charOfCode?, if_pos hvalid, Char.ofNat_toNat]

theorem is_control_lt (h : isControl c) : c.toNat < 0x80 := by
  simp only [isControl, Bool.and_eq_true, Bool.or_eq_true, decide_eq_true_eq] at h
  omega

/-- What is neither a control character nor a line end may stand in any form. -/
theorem is_plain_of_not_control (h : isControl c = false) (hline : c ≠ '\n') : isPlain c := by
  by_cases htab : c = '\t'
  · simp [isPlain, htab]
  · simp [isControl, htab, hline] at h
    simp [isPlain, h]

theorem is_plain_ne (h : isPlain c) : c ≠ '\n' ∧ c ≠ '\r' := by
  constructor <;> rintro rfl <;> exact absurd h (by decide)

/-- A character that needs no escape between quotes. -/
theorem escape_eq_none (h : escape? c = none) :
    isPlain c ∧ c ≠ '"' ∧ c ≠ '\\' := by
  unfold escape? at h
  repeat' split at h
  all_goals try cases h
  next hline _ _ hquote hslash hcontrol =>
    exact ⟨is_plain_of_not_control (by simpa using hcontrol) hline, hquote, hslash⟩

/-- An escape is one letter that stands for the character, or the four digits of its code. -/
theorem escape_cases {xs : List Char} (h : escape? c = some xs) :
    (∃ x, xs = ['\\', x] ∧ escapeLetter? x = some c) ∨
      ∃ w x y z, xs = ['\\', 'u', w, x, y, z] ∧ hexNumber? [w, x, y, z] = some c.toNat := by
  unfold escape? at h
  repeat' split at h
  all_goals cases h
  all_goals try (subst c; exact .inl ⟨_, rfl, rfl⟩)
  next hcontrol =>
    have hcode := hex_number_upper_hex c.toNat (is_control_lt hcontrol)
    exact .inr ⟨_, _, _, _, rfl, hcode⟩

/-- The letter of an escape is none that more digits follow, and no blank or line end. -/
theorem escape_letter_ne {x : Char} (h : escapeLetter? x = some c) :
    x ≠ 'u' ∧ x ≠ 'U' ∧ isBlank x = false ∧ x ≠ '\n' ∧ x ≠ '\r' := by
  unfold escapeLetter? at h
  repeat' split at h
  all_goals cases h
  all_goals (subst x; decide)

/-- The written form of a character begins with no quote and no line end. -/
theorem escaped_head (c : Char) :
    ∃ x xs, escaped c = x :: xs ∧ x ≠ '"' ∧ x ≠ '\n' ∧ x ≠ '\r' := by
  cases h : escape? c with
  | none =>
    obtain ⟨hplain, hquote, -⟩ := escape_eq_none h
    exact ⟨c, [], by rw [escaped, h]; rfl, hquote, is_plain_ne hplain⟩
  | some xs =>
    obtain ⟨xs', rfl⟩ : ∃ xs', xs = '\\' :: xs' := by
      rcases escape_cases h with ⟨x, rfl, -⟩ | ⟨w, x, y, z, rfl, -⟩ <;> exact ⟨_, rfl⟩
    exact ⟨'\\', xs', by rw [escaped, h]; rfl, by decide, by decide, by decide⟩

/-! ## On one line -/

theorem basic_plain (hplain : isPlain c) (hquote : c ≠ '"') (hslash : c ≠ '\\') :
    basic? (c :: rest) = (basic? rest).map (prepend c) := by
  rw [basic?]
  · simp [hplain]
  all_goals simp_all

/-- One written character is read as that character. -/
theorem basic_escaped (c : Char) (rest : List Char) :
    basic? (escaped c ++ rest) = (basic? rest).map (prepend c) := by
  cases h : escape? c with
  | none =>
    obtain ⟨hplain, hquote, hslash⟩ := escape_eq_none h
    rw [escaped, h]
    exact basic_plain hplain hquote hslash
  | some xs =>
    rw [escaped, h]
    rcases escape_cases h with ⟨x, rfl, hletter⟩ | ⟨w, x, y, z, rfl, hcode⟩
    · have hne := escape_letter_ne hletter
      simp only [Option.getD_some, List.cons_append, List.nil_append]
      rw [basic?]
      · simp [hletter]
      all_goals simp_all
    · simp [basic?, hcode, char_of_code_to_nat]

/-- The characters between quotes are read up to the quote that closes them. -/
theorem basic_flat_map_escaped (cs rest : List Char) :
    basic? (cs.flatMap escaped ++ '"' :: rest) = some (cs, rest) := by
  induction cs with
  | nil => simp [basic?]
  | cons c cs ih => simp [basic_escaped, ih, prepend]

theorem string_quoted_form (cs : List Char) (hrest : AfterText rest) :
    string? (quotedForm cs ++ rest) = some (cs, rest) := by
  have hread : string? (quotedForm cs ++ rest) = basic? (cs.flatMap escaped ++ '"' :: rest) := by
    rw [quotedForm, List.append_assoc, List.cons_append, List.singleton_append, string?]
    -- three quotes in a row would begin a string over several lines
    intro rest' h
    cases cs with
    | nil =>
      simp only [List.flatMap_nil, List.nil_append, List.cons.injEq, true_and] at h
      exact (hrest '"' (by simp [h])).1 rfl
    | cons c cs =>
      obtain ⟨x, xs, hx, hquote, -⟩ := escaped_head c
      rw [List.flatMap_cons, hx] at h
      exact hquote (List.cons.inj h).1
  rw [hread, basic_flat_map_escaped]

theorem literal_plain (hplain : isPlain c) (hquote : c ≠ '\'') :
    literal? (c :: rest) = (literal? rest).map (prepend c) := by
  rw [literal?]
  · simp [hplain]
  · simp_all

/-- The characters between apostrophes are read up to the apostrophe that closes them. -/
theorem literal_append (hplain : ∀ c ∈ cs, isPlain c) (hquote : '\'' ∉ cs) :
    literal? (cs ++ '\'' :: rest) = some (cs, rest) := by
  induction cs with
  | nil => simp [literal?]
  | cons c cs ih =>
    have hhead : c ≠ '\'' := fun h => hquote (h ▸ List.mem_cons_self)
    have htail := ih (fun c hc => hplain c (List.mem_cons_of_mem _ hc))
      fun h => hquote (List.mem_cons_of_mem _ h)
    rw [List.cons_append, literal_plain (hplain c List.mem_cons_self) hhead, htail]
    rfl

theorem string_literal_form (hplain : ∀ c ∈ cs, isPlain c) (hquote : '\'' ∉ cs)
    (hrest : AfterText rest) : string? (literalForm cs ++ rest) = some (cs, rest) := by
  have hread : string? (literalForm cs ++ rest) = literal? (cs ++ '\'' :: rest) := by
    rw [literalForm, List.append_assoc, List.cons_append, List.singleton_append, string?]
    intro rest' h
    cases cs with
    | nil =>
      simp only [List.nil_append, List.cons.injEq, true_and] at h
      exact (hrest '\'' (by simp [h])).2 rfl
    | cons c cs => exact hquote (by simp [(List.cons.inj h).1])
  rw [hread, literal_append hplain hquote]

/-! ## On several lines -/

/-- The line end after the opening delimiter is skipped, if the written form has one there. -/
theorem after_opening (hhead : '\n' ∉ cs → ∀ c ∈ rest.head?, c ≠ '\n' ∧ c ≠ '\r') :
    afterOpening (opening cs ++ rest) = rest := by
  by_cases hline : '\n' ∈ cs
  · simp [opening, hline, afterOpening, newline?]
  · have hnone : newline? rest = none := by
      cases rest with
      | nil => rfl
      | cons c rest =>
        have := hhead hline c rfl
        rw [newline?]
        all_goals simp_all
    simp [opening, hline, afterOpening, hnone]

/-- Quotes before those that close a string may as well stand behind them. -/
theorem replicate_append_delimiter (q : Char) (k : Nat) (rest : List Char) :
    List.replicate k q ++ q :: q :: q :: rest = q :: q :: q :: (List.replicate k q ++ rest) := by
  induction k with
  | zero => rfl
  | succ k ih => rw [List.replicate_succ, List.cons_append, ih, List.cons_append]

/-- Up to two quotes behind those that close a string belong to it. -/
theorem closing_replicate {q : Char} {k : Nat} (hk : k ≤ 2) (hrest : ∀ c ∈ rest.head?, c ≠ q) :
    closing q (List.replicate k q ++ rest) = (List.replicate k q, rest) := by
  match k, hk with
  | 0, _ =>
    match rest with
    | [] => rfl
    | [a] => simp [closing, hrest a rfl]
    | a :: b :: rest => simp [closing, hrest a rfl]
  | 1, _ =>
    match rest with
    | [] => simp [closing]
    | b :: rest => simp [closing, hrest b rfl]
  | 2, _ => simp [List.replicate_succ, closing]

/-- A character other than those that mean something else stands for itself. -/
theorem basic_lines_plain (hplain : isPlain c) (hslash : c ≠ '\\')
    (hquote : ∀ rest', c :: rest ≠ '"' :: '"' :: '"' :: rest') :
    basicLines? .text (c :: rest) = (basicLines? .text rest).map (prepend c) := by
  obtain ⟨hline, hreturn⟩ := is_plain_ne hplain
  rw [basicLines?]
  · simp [hplain]
  all_goals simp_all

/-- One written character is read as that character. -/
theorem basic_lines_escaped (c : Char) (rest : List Char) :
    basicLines? .text (escaped c ++ rest) = (basicLines? .text rest).map (prepend c) := by
  cases h : escape? c with
  | none =>
    obtain ⟨hplain, hquote, hslash⟩ := escape_eq_none h
    rw [escaped, h]
    exact basic_lines_plain hplain hslash fun rest' h => hquote (List.cons.inj h).1
  | some xs =>
    rw [escaped, h]
    rcases escape_cases h with ⟨x, rfl, hletter⟩ | ⟨w, x, y, z, rfl, hcode⟩
    · have hne := escape_letter_ne hletter
      simp only [Option.getD_some, List.cons_append, List.nil_append]
      rw [basicLines?]
      · simp [hletter, hne]
      all_goals simp_all
    · simp [basicLines?, hcode, char_of_code_to_nat]

/-- Up to two quotes are read as themselves if no third one follows. -/
theorem basic_lines_quotes {k : Nat} (hk : k ≤ 2) (hc : c ≠ '"') :
    basicLines? .text (List.replicate k '"' ++ c :: rest) =
      (basicLines? .text (c :: rest)).map fun (text, rest) =>
        (List.replicate k '"' ++ text, rest) := by
  have hquote : isPlain '"' := by decide
  match k, hk with
  | 0, _ => simp
  | 1, _ =>
    rw [List.replicate_one, List.singleton_append, basic_lines_plain hquote (by decide)]
    · rfl
    · simp [hc]
  | 2, _ =>
    rw [List.replicate_succ, List.replicate_one, List.cons_append, List.singleton_append,
      basic_lines_plain hquote (by decide), basic_lines_plain hquote (by decide)]
    · cases basicLines? .text (c :: rest) <;> rfl
    · simp [hc]
    · simp [hc]

/-- The written form of a text behind `k` quotes is read as both up to the closing quotes. -/
theorem basic_lines_run (hrest : AfterText rest) : ∀ {k : Nat}, k ≤ 2 → ∀ cs : List Char,
    basicLines? .text (List.replicate k '"' ++ (escapedLines k cs ++ '"' :: '"' :: '"' :: rest)) =
      some (List.replicate k '"' ++ cs, rest)
  | k, hk, [] => by
    rw [escapedLines, List.nil_append, replicate_append_delimiter, basicLines?,
      closing_replicate hk fun c hc => (hrest c hc).1]
    simp
  | k, hk, c :: cs => by
    have ih := basic_lines_run hrest (Nat.zero_le 2) cs
    rw [List.replicate_zero, List.nil_append, List.nil_append] at ih
    by_cases hquote : c = '"'
    · by_cases hthird : k = 2
      · -- the third quote is escaped, so that the two before it stay raw
        subst hquote hthird
        rw [escapedLines, if_pos rfl, if_pos rfl, List.cons_append, List.cons_append,
          basic_lines_quotes (Nat.le_refl 2) (by decide)]
        simp [basicLines?, escapeLetter?, isBlank, ih, prepend]
      · -- the quote joins those before it
        have hnext := basic_lines_run hrest (k := k + 1) (by omega) cs
        rw [List.replicate_succ', List.append_assoc, List.append_assoc] at hnext
        subst hquote
        rw [escapedLines, if_pos rfl, if_neg hthird]
        exact hnext
    · -- another character ends the run
      rw [escapedLines, if_neg hquote]
      split
      next hline =>
        subst hline
        rw [List.cons_append, basic_lines_quotes hk (by decide)]
        simp [basicLines?, ih, prepend]
      next hline =>
        obtain ⟨x, xs, hx, hxquote, -⟩ := escaped_head c
        have hread := basic_lines_escaped c (escapedLines 0 cs ++ '"' :: '"' :: '"' :: rest)
        rw [hx, List.cons_append] at hread
        rw [hx, List.append_assoc, List.cons_append, basic_lines_quotes hk hxquote, hread, ih]
        simp [prepend]

/-- A text without a line end has none in front of its written form either. -/
theorem escaped_lines_head (hline : '\n' ∉ cs) :
    ∀ c ∈ (escapedLines 0 cs ++ '"' :: rest).head?, c ≠ '\n' ∧ c ≠ '\r' := by
  cases cs with
  | nil => simp [escapedLines]
  | cons a cs =>
    have ha : a ≠ '\n' := fun h => hline (h ▸ List.mem_cons_self)
    obtain ⟨x, xs, hx, -, hends⟩ := escaped_head a
    by_cases hquote : a = '"'
    · simp [escapedLines, hquote]
    · simpa [escapedLines, hquote, ha, hx] using hends

theorem string_quoted_lines_form (cs : List Char) (hrest : AfterText rest) :
    string? (quotedLinesForm cs ++ rest) = some (cs, rest) := by
  have hbody := basic_lines_run hrest (Nat.zero_le 2) cs
  rw [List.replicate_zero, List.nil_append, List.nil_append] at hbody
  have hread : string? (quotedLinesForm cs ++ rest) = basicLines? .text
      (afterOpening (opening cs ++ (escapedLines 0 cs ++ '"' :: '"' :: '"' :: rest))) := by
    simp [quotedLinesForm, string?]
  rw [hread, after_opening escaped_lines_head, hbody]

theorem literal_lines_plain (hcontrol : isControl c = false)
    (hquote : ∀ rest', c :: rest ≠ '\'' :: '\'' :: '\'' :: rest') :
    literalLines? (c :: rest) = (literalLines? rest).map (prepend c) := by
  by_cases hline : c = '\n'
  · simp [hline, literalLines?]
  · have hplain := is_plain_of_not_control hcontrol hline
    have hreturn := (is_plain_ne hplain).2
    rw [literalLines?]
    · simp [hplain]
    all_goals simp_all

theorem literal_lines_run {k : Nat} (hk : k ≤ 2) (hrest : AfterText rest) :
    literalLines? (List.replicate k '\'' ++ '\'' :: '\'' :: '\'' :: rest) =
      some (List.replicate k '\'', rest) := by
  rw [replicate_append_delimiter, literalLines?, closing_replicate hk fun c hc => (hrest c hc).2]

/-- The characters between triple apostrophes are read up to those that close them. -/
theorem literal_lines_append (hrest : AfterText rest) : ∀ cs : List Char,
    (∀ c ∈ cs, isControl c = false) → hasTriple '\'' cs = false →
    literalLines? (cs ++ '\'' :: '\'' :: '\'' :: rest) = some (cs, rest)
  | [], _, _ => literal_lines_run (Nat.zero_le 2) hrest
  | [a], hcontrol, _ => by
    by_cases ha : a = '\''
    · subst ha
      exact literal_lines_run (k := 1) (by decide) hrest
    · have ih := literal_lines_append hrest [] (by simp) rfl
      rw [List.cons_append, literal_lines_plain (hcontrol a List.mem_cons_self), ih]
      · rfl
      · exact fun rest' h => ha (List.cons.inj h).1
  | [a, b], hcontrol, _ => by
    by_cases hab : a = '\'' ∧ b = '\''
    · obtain ⟨rfl, rfl⟩ := hab
      exact literal_lines_run (k := 2) (by decide) hrest
    · have ih := literal_lines_append hrest [b]
        (fun c hc => hcontrol c (List.mem_cons_of_mem _ hc)) rfl
      rw [List.cons_append, literal_lines_plain (hcontrol a List.mem_cons_self), ih]
      · rfl
      · intro rest' h
        obtain ⟨ha, hb, -⟩ : a = '\'' ∧ b = '\'' ∧ _ := by simpa using h
        exact hab ⟨ha, hb⟩
  | a :: b :: c :: cs, hcontrol, htriple => by
    simp only [hasTriple, Bool.or_eq_false_iff] at htriple
    have ih := literal_lines_append hrest (b :: c :: cs)
      (fun c hc => hcontrol c (List.mem_cons_of_mem _ hc)) htriple.2
    rw [List.cons_append, literal_lines_plain (hcontrol a List.mem_cons_self), ih]
    · rfl
    · intro rest' h
      obtain ⟨rfl, rfl, rfl, -⟩ : a = '\'' ∧ b = '\'' ∧ c = '\'' ∧ _ := by simpa using h
      simp at htriple

theorem string_literal_lines_form (hcontrol : ∀ c ∈ cs, isControl c = false)
    (htriple : hasTriple '\'' cs = false) (hrest : AfterText rest) :
    string? (literalLinesForm cs ++ rest) = some (cs, rest) := by
  have hread : string? (literalLinesForm cs ++ rest) = literalLines?
      (afterOpening (opening cs ++ (cs ++ '\'' :: '\'' :: '\'' :: rest))) := by
    simp [literalLinesForm, string?]
  rw [hread, after_opening, literal_lines_append hrest cs hcontrol htriple]
  intro hline
  cases cs with
  | nil => simp
  | cons a cs =>
    have ha : a ≠ '\n' := fun h => hline (h ▸ List.mem_cons_self)
    have hreturn := is_plain_ne (is_plain_of_not_control (hcontrol a List.mem_cons_self) ha)
    simpa using hreturn

/-! ## The choice of a form -/

/-- A string of any characters is read back as it was. -/
theorem string_write_text (cs : List Char) (hrest : AfterText rest) :
    string? (writeText cs ++ rest) = some (cs, rest) := by
  unfold writeText
  simp only [Bool.and_eq_true, Bool.not_eq_true', List.any_eq_false, List.contains_eq_mem,
    decide_eq_false_iff_not, Bool.not_eq_true]
  split
  · exact string_quoted_form cs hrest
  split
  next h =>
    obtain ⟨⟨hcontrol, hlines⟩, hquote⟩ := h
    have hplain : ∀ c ∈ cs, isPlain c := fun c hc =>
      is_plain_of_not_control (hcontrol c hc) fun h => hlines (h ▸ hc)
    exact string_literal_form hplain hquote hrest
  split
  · exact string_quoted_lines_form cs hrest
  split
  next h => exact string_literal_lines_form h.1 h.2 hrest
  split
  · exact string_quoted_lines_form cs hrest
  · exact string_quoted_form cs hrest

/-- Every form begins with its delimiter. -/
theorem write_text_head (cs : List Char) :
    ∃ xs, writeText cs = '"' :: xs ∨ writeText cs = '\'' :: xs := by
  unfold writeText
  simp only
  repeat' split
  all_goals simp [quotedForm, literalForm, quotedLinesForm, literalLinesForm]

end RouterBinding.Toml
