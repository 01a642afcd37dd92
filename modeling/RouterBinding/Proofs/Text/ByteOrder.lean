import Mathlib.Data.String.Basic

/-!
# Texts ordered by their bytes

Texts are compared by the codes of their characters. `Text.utf8_lt_utf8` says that comparing the
bytes of their UTF-8 forms is the same: of two characters the one with the smaller code has the
smaller form (`Text.encode_lt_encode`), and no form begins another one.
-/

namespace RouterBinding

/-- Lists with the same beginning are ordered by their rests. -/
theorem lists_lt_append_left_iff {α : Type} [LT α] [Std.Irrefl fun a b : α => a < b]
    (p a b : List α) : p ++ a < p ++ b ↔ a < b := by
  induction p with
  | nil => rfl
  | cons x p ih => simp [ih]

namespace Text

/-- The bytes of a text in UTF-8. -/
def utf8 (s : String) : List UInt8 := s.toByteArray.data.toList

theorem utf8_eq_flat_map (s : String) : utf8 s = s.toList.flatMap String.utf8EncodeChar := by
  rw [utf8, ← String.utf8Encode_toList]
  simp [List.utf8Encode]

section Character

variable {m n : Nat}

theorem byte_lt_iff (hm : m < 256) (hn : n < 256) : UInt8.ofNat m < UInt8.ofNat n ↔ m < n := by
  rw [UInt8.lt_iff_toNat_lt, UInt8.toNat_ofNat_of_lt' hm, UInt8.toNat_ofNat_of_lt' hn]

theorem byte_inj (hm : m < 256) (hn : n < 256) : UInt8.ofNat m = UInt8.ofNat n ↔ m = n := by
  rw [← UInt8.toNat_inj, UInt8.toNat_ofNat_of_lt' hm, UInt8.toNat_ofNat_of_lt' hn]

/-- Of two numbers the smaller one has fewer whole parts of 64, or as many and a smaller rest. -/
theorem parts_lt (h : m < n) : m / 64 < n / 64 ∨ m / 64 = n / 64 ∧ m % 64 < n % 64 := by omega

/-- A character with a smaller code has smaller bytes, whatever follows. -/
theorem encode_lt_encode {c d : Char} (h : c < d) (rest rest' : List UInt8) :
    String.utf8EncodeChar c ++ rest < String.utf8EncodeChar d ++ rest' := by
  have hlt : c.val.toNat < d.val.toNat := h
  have hmax : d.val.toNat < 0x110000 := by
    rcases d.valid with hd | hd <;> omega
  unfold String.utf8EncodeChar
  generalize c.val.toNat = m at hlt
  generalize d.val.toNat = n at hlt hmax
  have hsquare : m / 4096 = m / 64 / 64 ∧ n / 4096 = n / 64 / 64 := by omega
  have hcube : m / 262144 = m / 64 / 64 / 64 ∧ n / 262144 = n / 64 / 64 / 64 := by omega
  simp only [hsquare, hcube]
  split_ifs <;> simp (disch := omega) only [List.cons_append, List.nil_append,
    List.cons_lt_cons_iff, byte_lt_iff, byte_inj]
  -- Forms of different lengths differ in the first byte; what is left are two forms of four bytes.
  any_goals omega
  rcases parts_lt hlt with hlt | ⟨heq, hlast⟩
  · rcases parts_lt hlt with hlt | ⟨heq, hthird⟩
    · rcases parts_lt hlt with hlt | ⟨heq, hsecond⟩
      · exact .inl (by omega)
      · exact .inr ⟨by omega, .inl (by omega)⟩
    · exact .inr ⟨by omega, .inr ⟨by omega, .inl (by omega)⟩⟩
  · exact .inr ⟨by omega, .inr ⟨by omega, .inr ⟨by omega, .inl (by omega)⟩⟩⟩

end Character

theorem nil_lt_encode (c : Char) (rest : List UInt8) : [] < String.utf8EncodeChar c ++ rest := by
  obtain ⟨b, bs, hb⟩ := List.exists_cons_of_ne_nil (String.utf8EncodeChar_ne_nil (c := c))
  rw [hb]
  exact List.nil_lt_cons b (bs ++ rest)

theorem flat_map_encode_lt_iff (cs ds : List Char) :
    cs.flatMap String.utf8EncodeChar < ds.flatMap String.utf8EncodeChar ↔ cs < ds := by
  induction cs generalizing ds with
  | nil =>
    cases ds with
    | nil => simp
    | cons d ds => exact iff_of_true (nil_lt_encode d _) (List.nil_lt_cons d ds)
  | cons c cs ih =>
    cases ds with
    | nil => simp
    | cons d ds =>
      rw [List.cons_lt_cons_iff, List.flatMap_cons, List.flatMap_cons]
      rcases lt_trichotomy c d with hlt | rfl | hgt
      · exact iff_of_true (encode_lt_encode hlt _ _) (.inl hlt)
      · rw [lists_lt_append_left_iff, ih ds]
        simp
      · have hbytes := List.lt_asymm (encode_lt_encode hgt
          (ds.flatMap String.utf8EncodeChar) (cs.flatMap String.utf8EncodeChar))
        exact iff_of_false hbytes fun h =>
          h.elim (lt_asymm hgt) fun ⟨heq, _⟩ => hgt.ne' heq

/-- The bytes of texts are ordered as the texts are. -/
theorem utf8_lt_utf8 (s t : String) : utf8 s < utf8 t ↔ s < t := by
  rw [utf8_eq_flat_map, utf8_eq_flat_map, flat_map_encode_lt_iff, String.lt_iff_toList_lt]

end Text

end RouterBinding
