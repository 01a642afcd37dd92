/-!
# Tables in key order

A `Table κ α` holds at most one value under each key and lists its rows by increasing key. Every
operation is described by what it does to `get?`: `get_insert` and `get_erase` are the two laws
the rest of the library cites, and `ext_get` says that a table is nothing but its lookups.
-/

namespace RouterBinding

/-- Rows under distinct keys, listed by increasing key. -/
@[ext]
structure Table (κ α : Type) [Ord κ] where
  rows : List (κ × α)
  increasing : rows.Pairwise fun a b => compare a.1 b.1 = .lt

namespace Table

variable {κ α : Type} [Ord κ]

instance [DecidableEq κ] [DecidableEq α] : DecidableEq (Table κ α) := fun s t =>
  if h : s.rows = t.rows then isTrue (Table.ext h) else isFalse fun e => h (e ▸ rfl)

instance : EmptyCollection (Table κ α) := ⟨⟨[], .nil⟩⟩

instance : Inhabited (Table κ α) := ⟨∅⟩

/-- The value under the key `k`, if there is one. -/
def get? (t : Table κ α) (k : κ) : Option α :=
  (t.rows.find? fun row => compare k row.1 == .eq).map Prod.snd

def contains (t : Table κ α) (k : κ) : Bool := (t.get? k).isSome

def keys (t : Table κ α) : List κ := t.rows.map Prod.fst

def values (t : Table κ α) : List α := t.rows.map Prod.snd

/-- Places the row `(k, a)` in key order, in the place of an earlier row under `k`. -/
def place (k : κ) (a : α) : List (κ × α) → List (κ × α)
  | [] => [(k, a)]
  | row :: rows =>
    match compare k row.1 with
    | .lt => (k, a) :: row :: rows
    | .eq => (k, a) :: rows
    | .gt => row :: place k a rows

/-- A placed row list holds the new row and rows that were there before. -/
theorem mem_place {k : κ} {a : α} {rows : List (κ × α)} {row : κ × α}
    (h : row ∈ place k a rows) : row = (k, a) ∨ row ∈ rows := by
  induction rows with
  | nil => simpa [place] using h
  | cons head rows ih =>
    simp only [place] at h
    split at h <;> simp only [List.mem_cons] at h ⊢ <;> grind

theorem pairwise_place [Std.TransOrd κ] (k : κ) (a : α) {rows : List (κ × α)}
    (h : rows.Pairwise fun x y => compare x.1 y.1 = .lt) :
    (place k a rows).Pairwise fun x y => compare x.1 y.1 = .lt := by
  induction rows with
  | nil => simp [place]
  | cons head rows ih =>
    obtain ⟨hhead, hrows⟩ := List.pairwise_cons.1 h
    simp only [place]
    split
    next hlt =>
      refine List.pairwise_cons.2 ⟨fun row hrow => ?_, h⟩
      rcases List.mem_cons.1 hrow with rfl | hrow
      · exact hlt
      · exact Std.TransCmp.lt_trans hlt (hhead row hrow)
    next heq =>
      refine List.pairwise_cons.2 ⟨fun row hrow => ?_, hrows⟩
      exact Std.TransCmp.lt_of_eq_of_lt heq (hhead row hrow)
    next hgt =>
      refine List.pairwise_cons.2 ⟨fun row hrow => ?_, ih hrows⟩
      rcases mem_place hrow with rfl | hrow
      · exact Std.OrientedCmp.lt_of_gt hgt
      · exact hhead row hrow

/-- Puts `a` under the key `k`. -/
def insert [Std.TransOrd κ] (t : Table κ α) (k : κ) (a : α) : Table κ α :=
  ⟨place k a t.rows, pairwise_place k a t.increasing⟩

/-- Drops the row under the key `k`. -/
def erase (t : Table κ α) (k : κ) : Table κ α :=
  ⟨t.rows.filter fun row => compare k row.1 != .eq, t.increasing.filter _⟩

/-- The table of a list of rows; of two rows under one key the later one stays. -/
def ofRows [Std.TransOrd κ] (rows : List (κ × α)) : Table κ α :=
  rows.foldl (fun t row => t.insert row.1 row.2) ∅

@[simp] theorem get_empty (k : κ) : (∅ : Table κ α).get? k = none := rfl

theorem find_place_self [Std.LawfulEqOrd κ] (k : κ) (a : α) (rows : List (κ × α)) :
    (place k a rows).find? (fun row => compare k row.1 == .eq) = some (k, a) := by
  induction rows with
  | nil => simp [place]
  | cons head rows ih =>
    simp only [place]
    split <;> simp_all

theorem find_place_of_ne [Std.LawfulEqOrd κ] {k l : κ} (a : α) (rows : List (κ × α))
    (h : k ≠ l) :
    (place k a rows).find? (fun row => compare l row.1 == .eq) =
      rows.find? fun row => compare l row.1 == .eq := by
  have hne : (compare l k == .eq) = false := by
    simpa using fun e => h e.symm
  induction rows with
  | nil => simp [place, hne]
  | cons head rows ih =>
    simp only [place]
    split
    next => simp [List.find?_cons, hne]
    next heq =>
      have : k = head.1 := by simpa using heq
      simp [← this, hne]
    next => simp [List.find?_cons, ih]

/-- An inserted value is what its key finds; every other key finds what it found before. -/
theorem get_insert [Std.TransOrd κ] [Std.LawfulEqOrd κ] (t : Table κ α) (k l : κ) (a : α) :
    (t.insert k a).get? l = if compare k l = .eq then some a else t.get? l := by
  split
  next h =>
    obtain rfl : k = l := by simpa using h
    simp [get?, insert, find_place_self]
  next h =>
    have : k ≠ l := fun e => h (by simp [e])
    simp [get?, insert, find_place_of_ne a t.rows this]

@[simp] theorem get_insert_self [Std.TransOrd κ] [Std.LawfulEqOrd κ] (t : Table κ α)
    (k : κ) (a : α) : (t.insert k a).get? k = some a := by
  simp [get_insert]

theorem get_insert_of_ne [Std.TransOrd κ] [Std.LawfulEqOrd κ] (t : Table κ α) {k l : κ}
    (a : α) (h : k ≠ l) : (t.insert k a).get? l = t.get? l := by
  have : compare k l ≠ .eq := by simpa using h
  simp [get_insert, this]

/-- An erased key finds nothing; every other key finds what it found before. -/
theorem get_erase [Std.LawfulEqOrd κ] (t : Table κ α) (k l : κ) :
    (t.erase k).get? l = if compare k l = .eq then none else t.get? l := by
  simp only [get?, erase, List.find?_filter]
  split
  next h =>
    obtain rfl : k = l := by simpa using h
    simp
  next h =>
    congr 2
    funext row
    by_cases hl : l = row.1
    · subst hl
      simpa using h
    · have : compare l row.1 ≠ .eq := by simpa using hl
      simp [this]

@[simp] theorem get_erase_self [Std.LawfulEqOrd κ] (t : Table κ α) (k : κ) :
    (t.erase k).get? k = none := by
  simp [get_erase]

theorem get_erase_of_ne [Std.LawfulEqOrd κ] (t : Table κ α) {k l : κ} (h : k ≠ l) :
    (t.erase k).get? l = t.get? l := by
  have : compare k l ≠ .eq := by simpa using h
  simp [get_erase, this]

/-- A row is listed exactly if its key finds its value. -/
theorem mem_rows_iff [Std.LawfulEqOrd κ] (t : Table κ α) {k : κ} {a : α} :
    (k, a) ∈ t.rows ↔ t.get? k = some a := by
  obtain ⟨rows, h⟩ := t
  simp only [get?]
  induction rows with
  | nil => simp
  | cons head rows ih =>
    obtain ⟨hhead, hrows⟩ := List.pairwise_cons.1 h
    by_cases hk : k = head.1
    · subst hk
      have : ∀ b, (head.1, b) ∉ rows := fun b hb => by
        have := hhead _ hb
        simp at this
      simp [this, Prod.ext_iff, eq_comm]
    · have : compare k head.1 ≠ .eq := by simpa using hk
      simp [this, ih hrows, Prod.ext_iff, hk]

/-- A row under a key beyond all others comes last. -/
theorem place_of_lt [Std.OrientedOrd κ] {k : κ} (a : α) {rows : List (κ × α)}
    (h : ∀ row ∈ rows, compare row.1 k = .lt) : place k a rows = rows ++ [(k, a)] := by
  induction rows with
  | nil => rfl
  | cons head rows ih =>
    have hgt : compare k head.1 = .gt := Std.OrientedCmp.gt_of_lt (h head List.mem_cons_self)
    simp only [place, hgt, List.cons_append]
    rw [ih fun row hrow => h row (List.mem_cons_of_mem head hrow)]

theorem rows_foldl_insert [Std.TransOrd κ] {t : Table κ α} {rows : List (κ × α)}
    (h : (t.rows ++ rows).Pairwise fun a b => compare a.1 b.1 = .lt) :
    (rows.foldl (fun t row => t.insert row.1 row.2) t).rows = t.rows ++ rows := by
  induction rows generalizing t with
  | nil => simp
  | cons row rows ih =>
    have hrow : (t.insert row.1 row.2).rows = t.rows ++ [row] :=
      place_of_lt row.2 fun other hother =>
        (List.pairwise_append.1 h).2.2 other hother row List.mem_cons_self
    rw [List.foldl_cons, ih, hrow, List.append_assoc, List.singleton_append]
    rwa [hrow, List.append_assoc, List.singleton_append]

/-- Rows that come by increasing key are those of their table. -/
theorem rows_of_rows [Std.TransOrd κ] {rows : List (κ × α)}
    (h : rows.Pairwise fun a b => compare a.1 b.1 = .lt) : (ofRows rows).rows = rows :=
  rows_foldl_insert h

theorem mem_rows_foldl_insert [Std.TransOrd κ] {t : Table κ α} {rows : List (κ × α)}
    {row : κ × α} (h : row ∈ (rows.foldl (fun t row => t.insert row.1 row.2) t).rows) :
    row ∈ t.rows ∨ row ∈ rows := by
  induction rows generalizing t with
  | nil => exact .inl h
  | cons head rows ih =>
    rcases ih h with hrow | hrow
    · rcases mem_place hrow with rfl | hrow
      · exact .inr List.mem_cons_self
      · exact .inl hrow
    · exact .inr (List.mem_cons_of_mem head hrow)

/-- A table of rows has no others. -/
theorem mem_of_mem_of_rows [Std.TransOrd κ] {rows : List (κ × α)} {row : κ × α}
    (h : row ∈ (ofRows rows).rows) : row ∈ rows :=
  (mem_rows_foldl_insert h).resolve_left List.not_mem_nil

/-- Two tables with the same lookups are the same table. -/
theorem ext_get [Std.TransOrd κ] [Std.LawfulEqOrd κ] {s t : Table κ α}
    (h : ∀ k, s.get? k = t.get? k) : s = t := by
  have hmem : ∀ row, row ∈ s.rows ↔ row ∈ t.rows := fun (k, a) => by
    rw [mem_rows_iff, mem_rows_iff, h k]
  have nodup : ∀ u : Table κ α, u.rows.Nodup := fun u =>
    u.increasing.imp fun hlt e => by simp [e] at hlt
  refine Table.ext (((List.perm_ext_iff_of_nodup (nodup s) (nodup t)).2 hmem).eq_of_pairwise
    (fun a b _ _ hab hba => ?_) s.increasing t.increasing)
  have := Std.TransCmp.lt_trans hab hba
  simp at this

end Table

end RouterBinding
