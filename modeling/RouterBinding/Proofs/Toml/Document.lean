import RouterBinding.Proofs.Toml.Integer
import RouterBinding.Proofs.Toml.Text
import RouterBinding.Toml.Document

/-!
# Reading back a document of TOML

A document that consists of headers, of lines that give a key a value and of empty lines is read by
taking the step of each line in turn (`lines_flat_map`). The names in it have to be bare ones, and
the form of each value has to be one that is read as that value up to the line end.
-/

namespace RouterBinding.Toml

/-- A name that stands without quotes. -/
def BareName (name : List Char) : Prop := name ≠ [] ∧ ∀ c ∈ name, isBare c

instance (name : List Char) : Decidable (BareName name) :=
  decidable_of_iff ((!name.isEmpty && name.all isBare) = true) (by simp [BareName])

/-- A form that is read as a value up to the line end, and begins with no blank. -/
structure Shows (text : List Char) (v : Value) : Prop where
  head : ∀ c ∈ text.head?, isBlank c = false
  read : ∀ fuel rest, value? (fuel + 1) 0 (text ++ '\n' :: rest) = some (v, '\n' :: rest)

/-- A line of a document. -/
inductive Line where
  | header (name : List Char)
  | assign (name text : List Char) (v : Value)
  | blank

namespace Line

/-- The characters of a line, with its end. -/
def chars : Line → List Char
  | header name => '[' :: (name ++ [']', '\n'])
  | assign name text _ => name ++ (' ' :: '=' :: ' ' :: (text ++ ['\n']))
  | blank => ['\n']

/-- What a line does to a document that is read up to it. -/
def step (d : Draft) : Line → Option Draft
  | header name => d.open? [String.ofList name]
  | assign name _ v => d.assign? [String.ofList name] v
  | blank => some d

def Valid : Line → Prop
  | header name => BareName name
  | assign name text v => BareName name ∧ Shows text v
  | blank => True

end Line

variable {name text cs rest : List Char} {v : Value} {c : Char}

/-- What begins with no character of a class has none of it in front. -/
theorem span_of_head {p : Char → Bool} (hhead : ∀ c ∈ cs.head?, p c = false) :
    cs.takeWhile p = [] ∧ cs.dropWhile p = cs := by
  cases cs with
  | nil => exact ⟨rfl, rfl⟩
  | cons c cs => simp [hhead c rfl]

theorem skip_blanks_of_head (hhead : ∀ c ∈ cs.head?, isBlank c = false) : skipBlanks cs = cs :=
  (span_of_head hhead).2

/-! ## Names -/

theorem is_bare_ne (hc : isBare c) :
    isBlank c = false ∧ c ≠ '"' ∧ c ≠ '\'' ∧ c ≠ '[' ∧ c ≠ '#' ∧ c ≠ '\n' ∧ c ≠ '\r' := by
  have hne : ∀ d, isBare d = false → c ≠ d := fun d hd => ne_of_class hc hd
  have hblank : isBlank c = false := by
    simp [isBlank, hne ' ' (by decide), hne '\t' (by decide)]
  exact ⟨hblank, hne _ (by decide), hne _ (by decide), hne _ (by decide), hne _ (by decide),
    hne _ (by decide), hne _ (by decide)⟩

theorem BareName.cons (hname : BareName name) : ∃ c cs, name = c :: cs ∧ isBare c := by
  obtain ⟨c, cs, rfl⟩ := List.exists_cons_of_ne_nil hname.1
  exact ⟨c, cs, rfl, hname.2 c List.mem_cons_self⟩

/-- What follows a bare name is left. -/
theorem key_part_bare (hname : BareName name) (hrest : ∀ c ∈ rest.head?, isBare c = false) :
    keyPart? (name ++ rest) = some (name, rest) := by
  obtain ⟨c, cs, rfl, hc⟩ := hname.cons
  obtain ⟨-, hquote, hapostrophe, -⟩ := is_bare_ne hc
  obtain ⟨htake_rest, hdrop_rest⟩ := span_of_head hrest
  have htake : (c :: cs ++ rest).takeWhile isBare = c :: cs := by
    rw [List.takeWhile_append_of_pos hname.2, htake_rest, List.append_nil]
  have hdrop : (c :: cs ++ rest).dropWhile isBare = rest := by
    rw [List.dropWhile_append_of_pos hname.2, hdrop_rest]
  rw [keyPart?, htake, hdrop, if_neg hname.1]
  · exact fun rest' h => hquote (List.cons.inj h).1
  · exact fun rest' h => hapostrophe (List.cons.inj h).1

theorem BareName.skip_blanks (hname : BareName name) (rest : List Char) :
    skipBlanks (name ++ rest) = name ++ rest := by
  obtain ⟨c, cs, rfl, hc⟩ := hname.cons
  apply skip_blanks_of_head
  simpa using (is_bare_ne hc).1

/-- A bare name is read as a key of one part, if no dot follows it. -/
theorem key_bare (hname : BareName name) (hrest : ∀ c ∈ rest.head?, isBare c = false)
    (hdot : ∀ c ∈ (skipBlanks rest).head?, c ≠ '.') :
    key? (name ++ rest) = some ([String.ofList name], skipBlanks rest) := by
  show keyParts? (nestingLimit - 2 + 1) (name ++ rest) = _
  rw [keyParts?, hname.skip_blanks, key_part_bare hname hrest]
  simp only [Option.bind_eq_bind, Option.bind_some]
  split
  next h => exact absurd rfl (hdot '.' (by simp [h]))
  next => rfl

/-! ## Values -/

theorem shows_write_text (text : String) : Shows (writeText text.toList) (.string text) := by
  obtain ⟨xs, hxs⟩ := write_text_head text.toList
  constructor
  · rcases hxs with h | h <;> simp [h, isBlank]
  · intro fuel rest
    have hread : string? (writeText text.toList ++ '\n' :: rest) =
        some (text.toList, '\n' :: rest) := string_write_text text.toList (by simp [AfterText])
    rcases hxs with h | h
    all_goals
      rw [h, List.cons_append] at hread ⊢
      rw [value?, hread]
      simp

theorem shows_to_digits {n : Nat} (hn : n ≤ Int64.maxValue.toInt) :
    Shows (Nat.toDigits 10 n) (.integer n) := by
  obtain ⟨c, ds, hds, hc⟩ := to_digits_cons n
  have hne : ∀ d, d.isDigit = false → c ≠ d := fun d hd => ne_of_class hc hd
  constructor
  · simp [hds, isBlank, hne ' ' (by decide), hne '\t' (by decide)]
  · intro fuel rest
    have hread := scalar_to_digits hn rest
    rw [hds, List.cons_append] at hread ⊢
    rw [value?, hread]
    all_goals exact fun rest' h => hne _ (by decide) (List.cons.inj h).1

/-! ## Lines -/

theorem line_end (rest : List Char) : lineEnd? ('\n' :: rest) = some rest := rfl

/-- A header opens its section. -/
theorem header_bare (hname : BareName name) (d : Draft) (rest : List Char) :
    header? d (name ++ (']' :: '\n' :: rest)) =
      (d.open? [String.ofList name]).map fun d => (d, rest) := by
  have hkey : key? (name ++ (']' :: '\n' :: rest)) =
      some ([String.ofList name], ']' :: '\n' :: rest) :=
    key_bare hname (by simp [isBare]) (by simp [skipBlanks, isBlank])
  obtain ⟨c, cs, rfl, hc⟩ := hname.cons
  rw [header?, hkey]
  · simp only [Option.bind_eq_bind, Option.bind_some, line_end]
    cases d.open? [String.ofList (c :: cs)] <;> rfl
  · exact fun rest' h => (is_bare_ne hc).2.2.2.1 (List.cons.inj h).1

/-- A line that gives a key a value assigns it. -/
theorem assignment_bare (hname : BareName name) (hshows : Shows text v) (d : Draft)
    (rest : List Char) :
    assignment? d (name ++ (' ' :: '=' :: ' ' :: (text ++ '\n' :: rest))) =
      (d.assign? [String.ofList name] v).map fun d => (d, rest) := by
  have hkey : key? (name ++ (' ' :: '=' :: ' ' :: (text ++ '\n' :: rest))) =
      some ([String.ofList name], '=' :: ' ' :: (text ++ '\n' :: rest)) :=
    key_bare hname (by simp [isBare]) (by simp [skipBlanks, isBlank])
  have hskip : skipBlanks (' ' :: (text ++ '\n' :: rest)) = text ++ '\n' :: rest := by
    rw [skipBlanks, List.dropWhile_cons_of_pos (by decide)]
    apply skip_blanks_of_head
    cases text with
    | nil => simp [isBlank]
    | cons c text => simpa using hshows.head
  rw [assignment?, hkey]
  simp only [Option.bind_eq_bind, Option.bind_some, hskip, hshows.read, line_end]
  cases d.assign? [String.ofList name] v <;> rfl

/-- What begins with a bare character is no header, no comment and no empty line. -/
theorem lines_of_bare (hc : isBare c) (fuel : Nat) (d : Draft) (cs : List Char) :
    lines? (fuel + 1) d (c :: cs) =
      (assignment? d (c :: cs)).bind fun (d, rest) => lines? fuel d rest := by
  obtain ⟨hblank, -, -, hbracket, hnumber, hline, hreturn⟩ := is_bare_ne hc
  have hnone : newline? (c :: cs) = none := by
    rw [newline?]
    · exact fun rest h => hline (List.cons.inj h).1
    · exact fun rest h => hreturn (List.cons.inj h).1
  rw [lines?, skip_blanks_of_head (by simpa using hblank)]
  split
  next h => cases h
  next h => exact absurd (List.cons.inj h).1 hbracket
  next h => exact absurd (List.cons.inj h).1 hnumber
  next => simp [hnone]

/-- Reading a line takes its step. -/
theorem lines_cons {l : Line} (hl : l.Valid) (fuel : Nat) (d : Draft) (rest : List Char) :
    lines? (fuel + 1) d (l.chars ++ rest) = (l.step d).bind fun d => lines? fuel d rest := by
  cases l with
  | blank => simp [Line.chars, Line.step, lines?, skipBlanks, isBlank, newline?]
  | header name =>
    have hchars : (Line.header name).chars ++ rest = '[' :: (name ++ (']' :: '\n' :: rest)) := by
      simp [Line.chars]
    rw [hchars, lines?, skip_blanks_of_head (by simp [isBlank])]
    simp only [header_bare hl, Line.step]
    cases d.open? [String.ofList name] <;> rfl
  | assign name text v =>
    obtain ⟨hname, hshows⟩ := hl
    have hchars : (Line.assign name text v).chars ++ rest =
        name ++ (' ' :: '=' :: ' ' :: (text ++ '\n' :: rest)) := by
      simp [Line.chars]
    have hassignment := assignment_bare hname hshows d rest
    obtain ⟨c, cs, rfl, hc⟩ := hname.cons
    rw [List.cons_append] at hchars hassignment
    rw [hchars, lines_of_bare hc, hassignment, Line.step]
    cases d.assign? [String.ofList (c :: cs)] v <;> rfl

/-- Reading a document takes the steps of its lines. -/
theorem lines_flat_map {ls : List Line} (hls : ∀ l ∈ ls, l.Valid) {fuel : Nat}
    (hfuel : ls.length < fuel) (d : Draft) :
    lines? fuel d (ls.flatMap Line.chars) = ls.foldlM Line.step d := by
  induction ls generalizing fuel d with
  | nil =>
    obtain ⟨fuel, rfl⟩ := Nat.exists_eq_add_of_lt hfuel
    simp [lines?, skipBlanks]
  | cons l ls ih =>
    obtain ⟨fuel, rfl⟩ : ∃ k, fuel = k + 1 := ⟨fuel - 1, by omega⟩
    have hfuel : ls.length < fuel := by simpa using hfuel
    have htail := ih (fun l hl => hls l (List.mem_cons_of_mem _ hl)) hfuel
    rw [List.flatMap_cons, lines_cons (hls l List.mem_cons_self), List.foldlM_cons]
    simp [htail]

theorem Line.chars_ne_nil (l : Line) : l.chars ≠ [] := by
  cases l <;> simp [chars]

/-- There are no more lines than characters. -/
theorem length_le_flat_map (ls : List Line) : ls.length ≤ (ls.flatMap Line.chars).length := by
  induction ls with
  | nil => exact Nat.zero_le _
  | cons l ls ih =>
    have hl := List.length_pos_iff.2 l.chars_ne_nil
    rw [List.flatMap_cons, List.length_append, List.length_cons]
    omega

/-- No line begins with a mark of the byte order. -/
theorem skip_mark_flat_map {ls : List Line} (hls : ∀ l ∈ ls, l.Valid) :
    skipMark (ls.flatMap Line.chars) = ls.flatMap Line.chars := by
  cases ls with
  | nil => rfl
  | cons l ls =>
    have hl := hls l List.mem_cons_self
    cases l with
    | header name => rfl
    | blank => rfl
    | assign name text v =>
      obtain ⟨c, cs, rfl, hc⟩ := hl.1.cons
      rw [List.flatMap_cons, Line.chars, List.cons_append, List.cons_append, skipMark]
      exact fun rest h => ne_of_class hc (by decide) (List.cons.inj h).1

/-- A document of such lines has the members that their steps give. -/
theorem parse_lines {ls : List Line} (hls : ∀ l ∈ ls, l.Valid) :
    parse? (String.ofList (ls.flatMap Line.chars)) =
      ((ls.foldlM Line.step .start).bind Draft.close?).map Section.members := by
  have hfuel : ls.length < (ls.flatMap Line.chars).length + 1 :=
    Nat.lt_succ_of_le (length_le_flat_map ls)
  rw [parse?, String.toList_ofList, skip_mark_flat_map hls, lines_flat_map hls hfuel]
  cases ls.foldlM Line.step .start with
  | none => rfl
  | some d => cases h : d.close? <;> simp [h]

end RouterBinding.Toml
