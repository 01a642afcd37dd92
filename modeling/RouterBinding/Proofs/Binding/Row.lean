import RouterBinding.Binding.Row
import RouterBinding.Proofs.Json.Record
import RouterBinding.Proofs.Text.Digits

/-!
# Stored rows

A binding is read back from the text that it is stored as (`SnatBinding.of_text_to_text` and
`HostBinding.of_text_to_text`), whatever characters its ids hold. The key of a host binding tells
both of its ids (`HostBinding.key_inj`): the length in front says where the router id ends.
-/

namespace RouterBinding

open Json

theorem SnatBinding.faithful (b : SnatBinding) : Faithful toTree ofTree? b := by
  refine .of_record (fun _ => rfl) rfl rfl (by simp) (by simp [text_valid, optional_valid])
    fun r hget => ?_
  simp only [List.forall_mem_cons] at hget
  obtain ⟨hrouter, hagent, hhost, hport, -⟩ := hget
  simp [Record.required_text hrouter, Record.required_text hagent, Record.required_text hhost,
    Record.optional_text hport]

/-- A stored SNAT binding is read back as it was. -/
theorem SnatBinding.of_text_to_text (b : SnatBinding) : ofText? b.toText = some b :=
  b.faithful.read_back

theorem HostBinding.faithful (b : HostBinding) : Faithful toTree ofTree? b := by
  refine .of_record (fun _ => rfl) rfl rfl (by simp) (by simp [text_valid]) fun r hget => ?_
  simp only [List.forall_mem_cons] at hget
  obtain ⟨hrouter, hagent, -⟩ := hget
  simp [Record.required_text hrouter, Record.required_text hagent]

/-- A stored host binding is read back as it was. -/
theorem HostBinding.of_text_to_text (b : HostBinding) : ofText? b.toText = some b :=
  b.faithful.read_back

/-- Two texts of digits that end at a colon are the same if the characters behind agree as well. -/
theorem digits_colon_inj {m n : Nat} {s t : String}
    (h : Nat.repr m ++ ":" ++ s = Nat.repr n ++ ":" ++ t) : m = n ∧ s = t := by
  have hlists := congrArg String.toList h
  simp only [String.toList_append, Nat.toList_repr, List.append_assoc] at hlists
  have hdigit : ∀ k, ∀ c ∈ Nat.toDigits 10 k, c.isDigit := fun _ _ => is_digit_of_mem_to_digits
  have hdigits : Nat.toDigits 10 m = Nat.toDigits 10 n := by
    have := congrArg (List.takeWhile Char.isDigit) hlists
    simpa [List.takeWhile_append_of_pos (hdigit _)] using this
  have hnumber : m = n := by
    rw [← Nat.ofDigitChars_ten_toDigits (n := m), hdigits, Nat.ofDigitChars_ten_toDigits]
  subst hnumber
  exact ⟨rfl, String.toList_inj.1 (List.append_cancel_left (List.append_cancel_left hlists))⟩

/-- Of two equal texts, beginnings of the same size in bytes are equal, and so are the rests. -/
theorem append_inj_of_size {r r' s s' : String} (hsize : r.utf8ByteSize = r'.utf8ByteSize)
    (h : r ++ s = r' ++ s') : r = r' ∧ s = s' := by
  have hbytes := congrArg (fun t : String => t.toByteArray.data.toList) h
  simp only [String.toByteArray_append, ByteArray.toList_data_append] at hbytes
  have hr : r.toByteArray.data.toList = r'.toByteArray.data.toList :=
    (List.append_inj hbytes (by simpa using hsize)).1
  have : r = r' := by
    rw [← String.toByteArray_inj]
    exact ByteArray.ext (Array.toList_inj.1 hr)
  subst this
  exact ⟨rfl, (String.append_right_inj r).1 h⟩

/-- Two host bindings under one key are the same binding. -/
theorem HostBinding.key_inj {b c : HostBinding} (h : b.key = c.key) : b = c := by
  obtain ⟨router, agent⟩ := b
  obtain ⟨router', agent'⟩ := c
  simp only [HostBinding.key, String.append_assoc] at h
  obtain ⟨hsize, h⟩ := digits_colon_inj (by simpa only [String.append_assoc] using h)
  obtain ⟨rfl, h⟩ := append_inj_of_size hsize h
  rw [(String.append_right_inj _).1 ((String.append_right_inj _).1 h)]

end RouterBinding
