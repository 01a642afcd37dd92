import Mathlib.Data.Option.Basic
import RouterBinding.Proofs.Text.Digits
import RouterBinding.Toml.Scalar

/-!
# Reading back an integer of TOML

The decimal digits of a number are read as that number if a line ends behind them
(`scalar_to_digits`). A document may have a date or a time in the same place, and a number with a
fraction or an exponent: none of these begins with digits up to a line end.
-/

namespace RouterBinding.Toml

variable {c : Char} {cs ds rest : List Char} {n : Nat}

/-! ## Digits -/

/-- Some digits are read up to the line end. -/
theorem more_digits_append (hds : ∀ c ∈ ds, c.isDigit) :
    moreDigits Char.isDigit (ds ++ '\n' :: rest) = (ds, '\n' :: rest) := by
  induction ds with
  | nil => simp [moreDigits]
  | cons c ds ih =>
    have hc := hds c List.mem_cons_self
    rw [List.cons_append, moreDigits]
    · simp [hc, ih fun c hc => hds c (List.mem_cons_of_mem _ hc)]
    · exact fun c' rest' h => absurd h (ne_of_class hc (by decide))

theorem whole_to_digits (n : Nat) (rest : List Char) :
    whole? (Nat.toDigits 10 n ++ '\n' :: rest) = some (Nat.toDigits 10 n, '\n' :: rest) := by
  rcases Nat.eq_zero_or_pos n with rfl | hn
  · rfl
  · obtain ⟨c, ds, hds, hc⟩ := to_digits_cons n
    have hdigit : ∀ c' ∈ ds, c'.isDigit := fun c' hc' =>
      is_digit_of_mem_to_digits (hds ▸ List.mem_cons_of_mem c hc')
    have hzero := to_digits_head hn
    rw [hds] at hzero ⊢
    rw [List.cons_append, whole?]
    · have hmore : moreDigits Char.isDigit (ds ++ '\n' :: rest) = (ds, '\n' :: rest) :=
        more_digits_append hdigit
      simp [someDigits?, hc, hmore]
    · rintro rest' h
      exact hzero (by simp [(List.cons.inj h).1])

/-! ## Lines of digits -/

/-- Nothing but digits up to the end of a line. -/
def DigitLine (cs : List Char) : Prop := ∃ ds rest, cs = ds ++ '\n' :: rest ∧ ∀ c ∈ ds, c.isDigit

namespace DigitLine

theorem two_digits {k : Nat} (hcs : DigitLine cs) (h : twoDigits? cs = some (k, rest)) :
    DigitLine rest := by
  obtain ⟨ds, tail, rfl, hds⟩ := hcs
  match ds with
  | [] => cases tail <;> simp [twoDigits?] at h
  | [a] => simp [twoDigits?] at h
  | a :: b :: ds =>
    obtain ⟨-, -, rfl⟩ : (a.isDigit ∧ b.isDigit) ∧ _ ∧ ds ++ '\n' :: tail = rest := by
      simpa [twoDigits?] using h
    exact ⟨ds, tail, rfl, fun c hc => hds c (by simp [hc])⟩

theorem after (hcs : DigitLine cs) (hline : c ≠ '\n') (hdigit : c.isDigit = false) :
    after? c cs = none := by
  obtain ⟨ds, tail, rfl, hds⟩ := hcs
  cases ds with
  | nil => simp [after?, hline.symm]
  | cons a ds =>
    simp [after?, ne_of_class (hds a List.mem_cons_self) hdigit]

/-- Neither a date nor a time begins there. -/
theorem moment (hcs : DigitLine cs) : moment? cs = none := by
  have hdate : date? cs = none := by
    unfold date?
    cases hcentury : twoDigits? cs with
    | none => rfl
    | some century =>
      have hafter := hcs.two_digits hcentury
      cases hyear : twoDigits? century.2 with
      | none => simp [hyear]
      | some year =>
        have hdash := (hafter.two_digits hyear).after (c := '-') (by decide) (by decide)
        simp [hyear, hdash]
  have htime : time? cs = none := by
    unfold time?
    cases hhour : twoDigits? cs with
    | none => rfl
    | some hour =>
      have hcolon := (hcs.two_digits hhour).after (c := ':') (by decide) (by decide)
      simp [hcolon]
  simp [moment?, hdate, htime]

/-- No letter that names a base follows a zero. -/
theorem behind_zero (hcs : DigitLine ('0' :: c :: cs)) : c = '\n' ∨ c.isDigit := by
  obtain ⟨ds, tail, h, hds⟩ := hcs
  match ds with
  | [] => simp at h
  | [a] =>
    obtain ⟨-, rfl, -⟩ : '0' = a ∧ c = '\n' ∧ cs = tail := by simpa using h
    exact .inl rfl
  | a :: b :: ds =>
    obtain ⟨-, rfl, -⟩ : '0' = a ∧ c = b ∧ cs = ds ++ '\n' :: tail := by simpa using h
    exact .inr (hds c (by simp))

theorem integer (hcs : DigitLine cs) : integer? cs = decimal? cs := by
  rw [integer?]
  all_goals
    rintro rest rfl
    exact absurd hcs.behind_zero (by decide)

end DigitLine

/-! ## Numbers -/

theorem sign_digit (hc : c.isDigit) : sign (c :: cs) = (false, c :: cs) := by
  rw [sign]
  all_goals exact fun rest h => ne_of_class hc (by decide) (List.cons.inj h).1

theorem special_digit (hc : c.isDigit) : special? (c :: cs) = none := by
  rw [special?, sign_digit hc]
  split
  next h => exact absurd (List.cons.inj h).1 (ne_of_class hc (by decide))
  next h => exact absurd (List.cons.inj h).1 (ne_of_class hc (by decide))
  next => rfl

theorem digit_line_to_digits (n : Nat) (rest : List Char) :
    DigitLine (Nat.toDigits 10 n ++ '\n' :: rest) :=
  ⟨_, rest, rfl, fun _ hc => is_digit_of_mem_to_digits hc⟩

/-- The digits of a number of 63 bits are read as that number up to the line end. -/
theorem scalar_to_digits (hn : n ≤ Int64.maxValue.toInt) (rest : List Char) :
    scalar? (Nat.toDigits 10 n ++ '\n' :: rest) = some (.integer n, '\n' :: rest) := by
  have hline := digit_line_to_digits n rest
  have hwhole := whole_to_digits n rest
  obtain ⟨c, ds, hds, hc⟩ := to_digits_cons n
  have hsign : sign (Nat.toDigits 10 n ++ '\n' :: rest) =
      (false, Nat.toDigits 10 n ++ '\n' :: rest) := hds ▸ sign_digit hc
  have hfinite : finite? (Nat.toDigits 10 n ++ '\n' :: rest) = none := by
    simp [finite?, hsign, hwhole, fraction?, exponent?, guard]
  have hspecial : special? (Nat.toDigits 10 n ++ '\n' :: rest) = none := hds ▸ special_digit hc
  have hbounded : bounded? n = some (.integer n) := by
    have hmin : Int64.minValue.toInt ≤ n := Int.le_trans (by decide) (Int.natCast_nonneg n)
    rw [bounded?, if_pos ⟨hmin, hn⟩]
  have hdecimal : decimal? (Nat.toDigits 10 n ++ '\n' :: rest) =
      some (.integer n, '\n' :: rest) := by
    simp [decimal?, hsign, hwhole, hbounded]
  rw [scalar?, hline.moment, hfinite, hspecial, hline.integer, hdecimal]
  rfl

end RouterBinding.Toml
