/-!
# Decimal digits

What `Nat.toDigits 10` writes begins with a digit and consists of digits, and only the digits of
zero begin with a zero (`to_digits_head`).
-/

namespace RouterBinding

variable {c d : Char} {n : Nat}

/-- A character of a class is none outside of it. -/
theorem ne_of_class {p : Char → Bool} (hc : p c) (hd : p d = false) : c ≠ d := by
  rintro rfl
  rw [hd] at hc
  cases hc

theorem is_digit_of_mem_to_digits (hc : c ∈ Nat.toDigits 10 n) : c.isDigit :=
  Nat.isDigit_of_mem_toDigits (b := 10) (n := n) (by decide) (by decide) hc

theorem to_digits_cons (n : Nat) : ∃ c ds, Nat.toDigits 10 n = c :: ds ∧ c.isDigit := by
  obtain ⟨c, ds, hds⟩ := List.exists_cons_of_ne_nil (Nat.toDigits_ne_nil (n := n) (b := 10))
  exact ⟨c, ds, hds, is_digit_of_mem_to_digits (hds ▸ List.mem_cons_self)⟩

/-- Only the digits of zero begin with a zero. -/
theorem to_digits_head (hn : 0 < n) : (Nat.toDigits 10 n).head? ≠ some '0' := by
  induction n using Nat.strongRecOn with
  | _ n ih =>
    rw [Nat.toDigits_eq_if (by decide)]
    split
    next hlt =>
      have hdigit : ∀ k < 10, 0 < k → k.digitChar ≠ '0' := by decide
      simpa using hdigit n hlt hn
    next hge =>
      have htail := ih (n / 10) (by omega) (by omega)
      obtain ⟨c, ds, hds, -⟩ := to_digits_cons (n / 10)
      rw [hds] at htail ⊢
      simpa using htail

end RouterBinding
