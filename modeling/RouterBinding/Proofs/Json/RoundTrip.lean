import Mathlib.Data.Option.Basic
import RouterBinding.Json.Reader

/-!
# Reading back what was written

`parse_compact` says that a JSON document is read back as the tree that it was written from, if the
numerals in the tree are those of the JSON grammar. Strings need no such condition: every character
has a written form that is read as that character (`pieces_escape`), and the string without a text
is written as half of a surrogate pair. Each lemma below reads a written form with more characters
behind it; behind a value these may only be what ends a value inside a document (`AfterValue`).
-/

namespace RouterBinding.Json

/-! ## Strings -/

/-- Four digits written for a code below the space are read as that code. -/
theorem hex_number_control :
    ∀ n < 0x20, hexNumber? ['0', '0', Nat.digitChar (n / 16), Nat.digitChar (n % 16)] = some n := by
  decide

/-- The four-digit escape of a control character is read as the character. -/
theorem digits_control {c : Char} (h : c.toNat < 0x20) :
    Piece.ofDigits? '0' '0' (Nat.digitChar (c.toNat / 16)) (Nat.digitChar (c.toNat % 16)) =
      some (.char c) := by
  have hsurrogate : ¬(0xD800 ≤ c.toNat ∧ c.toNat < 0xE000) := by omega
  simp [Piece.ofDigits?, hex_number_control c.toNat h, hsurrogate]

/-- A character that stands for itself. -/
theorem pieces_plain {c : Char} (rest : List Char) (hquote : c ≠ '"') (hslash : c ≠ '\\')
    (hspace : 0x20 ≤ c.toNat) :
    pieces? (c :: rest) = (pieces? rest).map fun (ps, r) => (.char c :: ps, r) := by
  rw [pieces?]
  · simp [hspace, guard, Option.map_eq_bind]
  all_goals simp_all

/-- One written character is read as that character. -/
theorem pieces_escape (c : Char) (rest : List Char) :
    pieces? (escape c ++ rest) = (pieces? rest).map fun (ps, r) => (.char c :: ps, r) := by
  unfold escape
  repeat' split
  all_goals try (subst c; simp [pieces?, escaped?, Option.map_eq_bind])
  next h => simp [pieces?, digits_control h, Option.map_eq_bind]
  next hquote hslash _ _ _ _ _ h => exact pieces_plain rest hquote hslash (by omega)

/-- The written form of some characters up to the closing quote is read as them. -/
theorem pieces_flat_map_escape (cs rest : List Char) :
    pieces? (cs.flatMap escape ++ '"' :: rest) = some (cs.map .char, rest) := by
  induction cs with
  | nil => simp [pieces?]
  | cons c cs ih => simp [pieces_escape, ih]

theorem join_pieces_char (cs : List Char) : joinPieces (cs.map .char) = some cs := by
  induction cs with
  | nil => rfl
  | cons c cs ih => simp [joinPieces, ih]

/-- A written string is read back behind its opening quote, the one without text included. -/
theorem string_quoted (s : Option String) (rest : List Char) :
    ∃ cs, quoted s = '"' :: cs ∧ string? (cs ++ rest) = some (s, rest) := by
  cases s with
  | none => exact ⟨_, rfl, rfl⟩
  | some text =>
      refine ⟨text.toList.flatMap escape ++ ['"'], rfl, ?_⟩
      simp [string?, pieces_flat_map_escape, join_pieces_char]

/-! ## Numbers -/

/-- What may come after a value in a document: its end, or the end of an item or member. -/
def AfterValue (rest : List Char) : Prop := ∀ c ∈ rest.head?, c = ',' ∨ c = ']' ∨ c = '}'

/-- What ends a value is no part of a number. -/
theorem AfterValue.of_head {rest : List Char} (h : AfterValue rest) {c : Char}
    (hc : c ∈ rest.head?) :
    c.isDigit = false ∧ c ≠ '.' ∧ ¬(c = 'e' ∨ c = 'E') := by
  rcases h c hc with rfl | rfl | rfl <;> decide

/-- A numeral as the JSON grammar has it: digits only, no zero in front of other digits, and no
exponent without digits. -/
structure Numeral.Valid (n : Numeral) : Prop where
  whole : n.whole ≠ [] ∧ ∀ c ∈ n.whole, c.isDigit
  leading : n.whole.head? = some '0' → n.whole = ['0']
  fraction : ∀ c ∈ n.fraction, c.isDigit
  exponent : ∀ e ∈ n.exponent, e.2 ≠ [] ∧ ∀ c ∈ e.2, c.isDigit

theorem digits_append {ds rest : List Char} (hne : ds ≠ []) (hds : ∀ c ∈ ds, c.isDigit)
    (hrest : ∀ c ∈ rest.head?, c.isDigit = false) : digits? (ds ++ rest) = some (ds, rest) := by
  have hend : rest.takeWhile Char.isDigit = [] ∧ rest.dropWhile Char.isDigit = rest := by
    cases rest with
    | nil => simp
    | cons c rest => simp [hrest c rfl]
  simp [digits?, List.takeWhile_append_of_pos hds, List.dropWhile_append_of_pos hds, hend, hne]

namespace Numeral

/-- The point and the digits after it. -/
def fractionChars (n : Numeral) : List Char := if n.fraction = [] then [] else '.' :: n.fraction

/-- The exponent with its mark and its sign. -/
def exponentChars (n : Numeral) : List Char :=
  match n.exponent with
  | none => []
  | some (negative, digits) => 'e' :: (if negative then '-' else '+') :: digits

variable {n : Numeral} {rest : List Char}

theorem exponent_chars (hn : n.Valid) (hrest : AfterValue rest) :
    exponent? (n.exponentChars ++ rest) = some (n.exponent, rest) := by
  unfold exponentChars
  cases he : n.exponent with
  | none =>
      cases rest with
      | nil => rfl
      | cons c rest =>
          obtain ⟨-, -, hmark⟩ := hrest.of_head rfl
          simp [exponent?, hmark]
  | some e =>
      obtain ⟨negative, digits⟩ := e
      obtain ⟨hne, hds⟩ := hn.exponent _ he
      have hread := digits_append hne hds fun c hc => (hrest.of_head hc).1
      cases negative <;> simp [exponent?, exponentSign, hread]

/-- The exponent, or what comes after a number without one, begins with no digit and no point. -/
theorem exponent_head (hrest : AfterValue rest) {c : Char}
    (hc : c ∈ (n.exponentChars ++ rest).head?) : c.isDigit = false ∧ c ≠ '.' := by
  unfold exponentChars at hc
  cases he : n.exponent with
  | none =>
      rw [he] at hc
      exact ⟨(hrest.of_head hc).1, (hrest.of_head hc).2.1⟩
  | some e =>
      obtain rfl : 'e' = c := by simpa [he] using hc
      decide

theorem fraction_chars (hn : n.Valid) (hrest : AfterValue rest) :
    fraction? (n.fractionChars ++ (n.exponentChars ++ rest)) =
      some (n.fraction, n.exponentChars ++ rest) := by
  have hend := fun c => exponent_head (n := n) hrest (c := c)
  unfold fractionChars
  split
  next h =>
    generalize n.exponentChars ++ rest = cs at hend
    cases cs with
    | nil => simp [fraction?, h]
    | cons c cs =>
        have := (hend c rfl).2
        rw [List.nil_append, h, fraction?]
        simpa using this
  next h => simp [fraction?, digits_append h hn.fraction fun c hc => (hend c hc).1]

theorem whole_chars (hn : n.Valid) (hrest : AfterValue rest) :
    whole? (n.whole ++ (n.fractionChars ++ (n.exponentChars ++ rest))) =
      some (n.whole, n.fractionChars ++ (n.exponentChars ++ rest)) := by
  obtain ⟨hne, hds⟩ := hn.whole
  by_cases hzero : n.whole.head? = some '0'
  · rw [hn.leading hzero]
    rfl
  · have hend : ∀ c ∈ (n.fractionChars ++ (n.exponentChars ++ rest)).head?,
        c.isDigit = false := by
      unfold fractionChars
      split
      · exact fun c hc => (exponent_head hrest hc).1
      · simp
    rw [whole?]
    · exact digits_append hne hds hend
    · intro rest' h
      cases hw : n.whole with
      | nil => exact hne hw
      | cons c cs => simp_all

/-- The digits of a number do not begin with a sign. -/
theorem whole_no_sign (hn : n.Valid) (cs cs' : List Char) : n.whole ++ cs ≠ '-' :: cs' := by
  obtain ⟨hne, hds⟩ := hn.whole
  intro h
  cases hw : n.whole with
  | nil => exact hne hw
  | cons c ds =>
      rw [hw, List.cons_append, List.cons.injEq] at h
      have := hds c (by simp [hw])
      simp [h.1] at this

/-- A number is read back up to what comes after it. -/
theorem numeral_chars (hn : n.Valid) (hrest : AfterValue rest) :
    numeral? (n.chars ++ rest) = some (n, rest) := by
  have hchars : n.chars ++ rest = (if n.negative then ['-'] else []) ++
      (n.whole ++ (n.fractionChars ++ (n.exponentChars ++ rest))) := by
    simp only [chars, List.append_assoc]
    rfl
  rw [hchars]
  cases hneg : n.negative with
  | true =>
      simp only [if_true, List.cons_append, List.nil_append, numeral?, whole_chars hn hrest,
        fraction_chars hn hrest, exponent_chars hn hrest, Option.bind_eq_bind, Option.bind_some,
        ← hneg]
  | false =>
      rw [if_neg Bool.false_ne_true, List.nil_append, numeral?]
      · simp only [whole_chars hn hrest, fraction_chars hn hrest, exponent_chars hn hrest,
          Option.bind_eq_bind, Option.bind_some, ← hneg]
      · exact fun cs' => whole_no_sign hn _ cs'

end Numeral

/-! ## Trees -/

mutual

/-- Every numeral of the tree is one of the JSON grammar. -/
def Tree.Valid : Tree → Prop
  | .number n => n.Valid
  | .array items => ItemsValid items
  | .object members => MembersValid members
  | _ => True

def ItemsValid : List Tree → Prop
  | [] => True
  | item :: items => item.Valid ∧ ItemsValid items

def MembersValid : List (Option String × Tree) → Prop
  | [] => True
  | (_, value) :: members => value.Valid ∧ MembersValid members

end

/-- Blanks are skipped up to the first character that is none. -/
theorem skip_blanks_of_head {cs : List Char} (h : ∀ c ∈ cs.head?, isBlank c = false) :
    skipBlanks cs = cs := by
  cases cs with
  | nil => rfl
  | cons c cs => simp [skipBlanks, h c rfl]

/-- A number begins with a minus or a digit. -/
theorem Numeral.chars_head {n : Numeral} (hn : n.Valid) :
    ∃ c cs, n.chars = c :: cs ∧ (c = '-' ∨ c.isDigit) := by
  obtain ⟨hne, hds⟩ := hn.whole
  unfold chars
  cases n.negative with
  | true => exact ⟨_, _, rfl, .inl rfl⟩
  | false =>
      cases hw : n.whole with
      | nil => exact absurd hw hne
      | cons c ds => exact ⟨_, _, rfl, .inr (hds c (by simp [hw]))⟩

theorem not_blank_of_digit {c : Char} (h : c.isDigit) : isBlank c = false := by
  refine Bool.eq_false_iff.2 fun hb => ?_
  simp only [isBlank, Bool.or_eq_true, decide_eq_true_eq] at hb
  rcases hb with ((rfl | rfl) | rfl) | rfl <;> exact absurd h (by decide)

/-- A value begins with a character that is no blank and closes nothing. -/
theorem chars_head {t : Tree} (ht : t.Valid) :
    ∃ c cs, t.chars = c :: cs ∧ isBlank c = false ∧ c ≠ ']' ∧ c ≠ '}' := by
  cases t with
  | null => exact ⟨_, _, rfl, by decide⟩
  | bool b => cases b <;> exact ⟨_, _, rfl, by decide⟩
  | number n =>
      obtain ⟨c, cs, hcs, hc⟩ := Numeral.chars_head ht
      refine ⟨c, cs, hcs, ?_⟩
      rcases hc with rfl | hc
      · decide
      · refine ⟨not_blank_of_digit hc, ?_, ?_⟩ <;> rintro rfl <;> exact absurd hc (by decide)
  | string s =>
      obtain ⟨cs, hcs, -⟩ := string_quoted s []
      exact ⟨'"', cs, hcs, by decide⟩
  | array items => cases items <;> exact ⟨_, _, rfl, by decide⟩
  | object members => rcases members with _ | ⟨⟨_, _⟩, _⟩ <;> exact ⟨_, _, rfl, by decide⟩

theorem after_value_items (items : List Tree) (rest : List Char) :
    AfterValue (Tree.itemChars items ++ rest) := by
  cases items <;> simp [AfterValue, Tree.itemChars]

theorem after_value_members (members : List (Option String × Tree)) (rest : List Char) :
    AfterValue (Tree.memberChars members ++ rest) := by
  rcases members with _ | ⟨⟨name, value⟩, members⟩ <;> simp [AfterValue, Tree.memberChars]

mutual

/-- A value is read back up to what comes after it, with enough fuel for its characters. -/
theorem value_chars (fuel : Nat) {t : Tree} (ht : t.Valid) (rest : List Char)
    (hrest : AfterValue rest) (hfuel : 2 * t.chars.length ≤ fuel) :
    value? fuel (t.chars ++ rest) = some (t, rest) := by
  obtain ⟨c, cs, hcs, hblank, -⟩ := chars_head ht
  have hskip : skipBlanks (t.chars ++ rest) = t.chars ++ rest :=
    skip_blanks_of_head (by simp [hcs, hblank])
  cases fuel with
  | zero => simp [hcs] at hfuel
  | succ fuel =>
  rw [value?, hskip]
  cases t with
  | null => rfl
  | bool b => cases b <;> rfl
  | number n =>
      have hvalue := Numeral.numeral_chars ht hrest
      obtain ⟨c, cs, hcs, hc⟩ := Numeral.chars_head ht
      simp only [Tree.chars, hcs, List.cons_append] at hvalue ⊢
      have hne : c ≠ 'n' ∧ c ≠ 't' ∧ c ≠ 'f' ∧ c ≠ '"' ∧ c ≠ '[' ∧ c ≠ '{' := by
        rcases hc with rfl | hc
        · decide
        · refine ⟨?_, ?_, ?_, ?_, ?_, ?_⟩ <;> rintro rfl <;> exact absurd hc (by decide)
      split <;> simp_all
  | string s =>
      obtain ⟨cs, hcs, hread⟩ := string_quoted s rest
      simp [Tree.chars, hcs, hread]
  | array items =>
      cases items with
      | nil => rfl
      | cons item items =>
          obtain ⟨hitem, hitems⟩ := ht
          obtain ⟨c, cs, hcs, hblank, hclose, -⟩ := chars_head hitem
          have hread := items_chars fuel hitem hitems rest
            (by simp [Tree.chars] at hfuel; omega)
          have hskip : skipBlanks (item.chars ++ (Tree.itemChars items ++ rest)) =
              c :: (cs ++ (Tree.itemChars items ++ rest)) := by
            rw [skip_blanks_of_head (by simp [hcs, hblank]), hcs]
            rfl
          simp [Tree.chars, hskip, hclose, hread]
  | object members =>
      rcases members with _ | ⟨⟨name, value⟩, members⟩
      · rfl
      · obtain ⟨hvalue, hmembers⟩ := ht
        obtain ⟨cs, hcs, -⟩ := string_quoted name []
        have hread := members_chars fuel name hvalue hmembers rest
          (by simp [Tree.chars] at hfuel; omega)
        have hskip : skipBlanks (quoted name ++ ':' :: (value.chars ++
            (Tree.memberChars members ++ rest))) =
              '"' :: (cs ++ ':' :: (value.chars ++ (Tree.memberChars members ++ rest))) := by
          rw [skip_blanks_of_head (by simp [hcs, isBlank]), hcs]
          rfl
        simp [Tree.chars, hskip, hread]

/-- The items of an array are read back from the first one on, with the closing bracket. -/
theorem items_chars (fuel : Nat) {item : Tree} {items : List Tree} (hitem : item.Valid)
    (hitems : ItemsValid items) (rest : List Char)
    (hfuel : 2 * (item.chars.length + (Tree.itemChars items).length) + 1 ≤ fuel) :
    items? fuel (item.chars ++ (Tree.itemChars items ++ rest)) = some (item :: items, rest) := by
  cases fuel with
  | zero => omega
  | succ fuel =>
  have hvalue := value_chars fuel hitem _ (after_value_items items rest) (by omega)
  rw [items?, hvalue]
  cases items with
  | nil => simp [Tree.itemChars, skipBlanks, isBlank]
  | cons next items =>
      obtain ⟨hnext, hitems⟩ := hitems
      have hread := items_chars fuel hnext hitems rest
        (by simp [Tree.itemChars] at hfuel; omega)
      simp [Tree.itemChars, skipBlanks, isBlank, hread]

/-- The members of an object are read back from the first one on, with the closing brace. -/
theorem members_chars (fuel : Nat) (name : Option String) {value : Tree}
    {members : List (Option String × Tree)} (hvalue : value.Valid)
    (hmembers : MembersValid members) (rest : List Char)
    (hfuel : 2 * ((quoted name).length + value.chars.length +
      (Tree.memberChars members).length) + 1 ≤ fuel) :
    members? fuel (quoted name ++ ':' :: (value.chars ++ (Tree.memberChars members ++ rest))) =
      some ((name, value) :: members, rest) := by
  cases fuel with
  | zero => omega
  | succ fuel =>
  have hread := value_chars fuel hvalue _ (after_value_members members rest) (by omega)
  obtain ⟨cs, hcs, hname⟩ := string_quoted name
    (':' :: (value.chars ++ (Tree.memberChars members ++ rest)))
  rw [members?, skip_blanks_of_head (by simp [hcs, isBlank]), hcs, List.cons_append]
  simp only [hname, Option.bind_eq_bind, Option.bind_some]
  rw [skip_blanks_of_head (by simp [isBlank])]
  simp only [hread, Option.bind_some]
  rcases members with _ | ⟨⟨nextName, nextValue⟩, members⟩
  · simp [Tree.memberChars, skipBlanks, isBlank]
  · obtain ⟨hnext, hmembers⟩ := hmembers
    have hmore := members_chars fuel nextName hnext hmembers rest
      (by simp [Tree.memberChars] at hfuel; omega)
    simp [Tree.memberChars, skipBlanks, isBlank, hmore]

end

/-- A document is read back as the tree that it was written from. -/
theorem parse_compact {t : Tree} (ht : t.Valid) : Tree.parse? t.compact = some t := by
  have hvalue := value_chars (2 * t.chars.length + 1) ht []
    (by simp [AfterValue]) (by omega)
  rw [List.append_nil] at hvalue
  simp [Tree.parse?, Tree.compact, hvalue, skipBlanks]

end RouterBinding.Json
