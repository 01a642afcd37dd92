import Mathlib.Algebra.Group.Int.Defs
import Mathlib.Algebra.Group.Nat.Defs
import RouterBinding.Config.File
import RouterBinding.Proofs.Toml.Document

/-!
# Reading back a configuration file

The file of a configuration is a document of a few lines (`fileLines`), of which the form of the two
texts depends on what is in them. `file_round_trip` says that a configuration has a file exactly if
its seed fits into 63 bits, and that it is read back from that file as it was.
-/

namespace RouterBinding.Config

open Toml (Line Draft Value)

/-- The line that gives a name a text. -/
def nameText (name text : String) : Line :=
  .assign name.toList (Toml.writeText text.toList) (.string text)

/-- The line that gives the seed, if there is one. -/
def seedLines : Option UInt64 → List Line
  | some seed =>
    [.assign "snat_selection_seed".toList (Nat.toDigits 10 seed.toNat) (.integer seed.toNat)]
  | none => []

/-- The lines of the file of a configuration. -/
def fileLines (c : Config) : List Line :=
  [.header "store".toList,
    nameText "path" c.storePath,
    .blank,
    .header "scheduler".toList] ++ seedLines c.seed ++
  [.blank,
    .header "logging".toList,
    nameText "filter" c.logFilter]

/-- The members of the document with these lines. -/
def fileMembers (c : Config) : List (String × Value) :=
  [("store", .table [("path", .string c.storePath)]),
    ("scheduler", .table (c.seed.toList.map fun seed =>
      ("snat_selection_seed", .integer seed.toNat))),
    ("logging", .table [("filter", .string c.logFilter)])]

variable {c : Config} {text : String}

/-! ## The text of a file -/

theorem chars_seed_lines (seed : Option UInt64) :
    (seedLines seed).flatMap Line.chars = seedLine seed := by
  cases seed with
  | none => rfl
  | some seed =>
    unfold seedLines seedLine
    simp [Line.chars]

theorem chars_file_lines (c : Config) : c.fileLines.flatMap Line.chars =
    "[store]\n".toList ++ textLine "path" c.storePath ++
    "\n[scheduler]\n".toList ++ seedLine c.seed ++
    "\n[logging]\n".toList ++ textLine "filter" c.logFilter := by
  rw [fileLines, List.flatMap_append, List.flatMap_append, chars_seed_lines]
  simp [nameText, Line.chars, textLine]

theorem int64_max : Int64.maxValue.toInt = 2 ^ 63 - 1 := rfl

/-- A seed is refused if it does not fit into 63 bits. -/
theorem seed_any_iff (seed : Option UInt64) :
    seed.any (Int64.maxValue.toInt < ·.toNat) = false ↔ ∀ n ∈ seed, n.toNat ≤ 2 ^ 63 - 1 := by
  cases seed with
  | none => simp
  | some n =>
    simp only [Option.any_some, decide_eq_false_iff_not, Option.mem_def, Option.some.injEq,
      forall_eq', int64_max]
    omega

theorem to_text_is_some (c : Config) :
    c.toText?.isSome ↔ ∀ seed ∈ c.seed, seed.toNat ≤ 2 ^ 63 - 1 := by
  rw [← seed_any_iff, toText?]
  split <;> simp_all

theorem to_text_eq (h : c.toText? = some text) :
    text = String.ofList (c.fileLines.flatMap Line.chars) := by
  rw [toText?] at h
  split at h
  next => cases h
  next => rw [chars_file_lines, Option.some.inj h]

/-! ## The document of a file -/

theorem name_text_valid {name : String} (hname : Toml.BareName name.toList) (text : String) :
    (nameText name text).Valid := ⟨hname, Toml.shows_write_text text⟩

/-- Every line of a file can be read back. -/
theorem file_lines_valid (hseed : ∀ seed ∈ c.seed, seed.toNat ≤ 2 ^ 63 - 1) :
    ∀ l ∈ c.fileLines, l.Valid := by
  have hlines : ∀ l ∈ seedLines c.seed, l.Valid := by
    cases h : c.seed with
    | none => simp [seedLines]
    | some seed =>
      have hbound : (seed.toNat : Int) ≤ Int64.maxValue.toInt := by
        have := hseed seed h
        rw [int64_max]
        omega
      simpa [seedLines] using ⟨by decide, Toml.shows_to_digits hbound⟩
  intro l hl
  simp only [fileLines, List.mem_append, List.mem_cons, List.not_mem_nil, or_false] at hl
  rcases hl with ((rfl | rfl | rfl | rfl) | hl) | (rfl | rfl | rfl)
  · exact (by decide : Toml.BareName "store".toList)
  · exact name_text_valid (by decide) c.storePath
  · trivial
  · exact (by decide : Toml.BareName "scheduler".toList)
  · exact hlines l hl
  · trivial
  · exact (by decide : Toml.BareName "logging".toList)
  · exact name_text_valid (by decide) c.logFilter

/-- Taking the lines of a file one after the other gives its members. -/
theorem members_file_lines (c : Config) :
    ((c.fileLines.foldlM Line.step .start).bind Draft.close?).map Toml.Section.members =
      some c.fileMembers := by
  obtain ⟨path, seed, filter⟩ := c
  -- all names are known, so that every step computes whatever the texts and the seed are
  cases seed <;> rfl

theorem of_members_file_members (c : Config) : ofMembers? c.fileMembers = some c := by
  obtain ⟨path, seed, filter⟩ := c
  cases seed <;> simp [fileMembers, ofMembers?, part?, Value.member?, textMember?, seedMember?,
    seedOfValue?, Value.int?, Value.text?]

/-- A file is read back as the configuration that it was written from. -/
theorem of_text_to_text (h : c.toText? = some text) : ofText? text = some c := by
  have hseed := (to_text_is_some c).1 (h ▸ rfl)
  rw [ofText?, to_text_eq h, Toml.parse_lines (file_lines_valid hseed), members_file_lines,
    Option.bind_some, of_members_file_members]

/-- A configuration has a file exactly if its seed, if there is one, fits into 63 bits. Whatever
characters its store path and its log filter have, it is read back from that file as it was, and no
other configuration has the same file. -/
theorem file_round_trip (c : Config) :
    (c.toText?.isSome ↔ ∀ seed ∈ c.seed, seed.toNat ≤ 2 ^ 63 - 1) ∧
    ∀ text, c.toText? = some text →
      ofText? text = some c ∧ ∀ c', c'.toText? = some text → c' = c := by
  refine ⟨to_text_is_some c, fun text h => ⟨of_text_to_text h, fun c' h' => ?_⟩⟩
  have hread := of_text_to_text h'
  rw [of_text_to_text h] at hread
  exact (Option.some.inj hread).symm

/-- The store path has a carriage return, a line end and a run of four quotes, the log filter begins
and ends with an apostrophe, and the seed is the largest one. -/
def delimiters : Config := ⟨"\r\n\"\"\"\"", some 9223372036854775807, "'\\'"⟩

/-- The file of that configuration. -/
def delimitersText : String :=
  "[store]\npath = \"\"\"\n\\r\n\"\"\\\"\"\"\"\"\n\n[scheduler]\n" ++
  "snat_selection_seed = 9223372036854775807\n\n[logging]\nfilter = ''''\\''''\n"

theorem file_round_trip_delimiters :
    delimiters.toText? = some delimitersText ∧ ofText? delimitersText = some delimiters ∧
      ∀ c', c'.toText? = some delimitersText → c' = delimiters := by
  have htext : delimiters.toText? = some delimitersText := by decide
  exact ⟨htext, (file_round_trip delimiters).2 delimitersText htext⟩

end RouterBinding.Config
