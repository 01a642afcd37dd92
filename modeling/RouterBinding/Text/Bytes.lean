/-!
# Places in a text

A place in a text is a number of bytes of its UTF-8 form. `splitBytes?` cuts some characters at a
place and `slice?` takes what stands between two places; both fail at a place that lies inside of a
character. What is cut puts the text together again (`append_of_split_bytes`).
-/

namespace RouterBinding.Text

/-- The characters before a place and those behind it. -/
def splitBytes? : Nat → List Char → Option (List Char × List Char)
  | 0, cs => some ([], cs)
  | _ + 1, [] => none
  | n + 1, c :: rest =>
    if c.utf8Size ≤ n + 1 then
      (splitBytes? (n + 1 - c.utf8Size) rest).map fun parts => (c :: parts.1, parts.2)
    else none

/-- The characters from one place to another. -/
def slice? (start stop : Nat) (cs : List Char) : Option (List Char) := do
  let (_, rest) ← splitBytes? start cs
  let (taken, _) ← splitBytes? (stop - start) rest
  some taken

theorem append_of_split_bytes {n : Nat} {cs before behind : List Char}
    (h : splitBytes? n cs = some (before, behind)) : before ++ behind = cs := by
  fun_induction splitBytes? n cs generalizing before behind with
  | case1 => simp_all
  | case2 => simp at h
  | case3 n c rest _ ih =>
    obtain ⟨⟨before, behind⟩, hrest, heq⟩ := Option.map_eq_some_iff.1 h
    obtain ⟨rfl, rfl⟩ := Prod.mk.inj heq
    simp [ih hrest]
  | case4 => simp at h

end RouterBinding.Text
