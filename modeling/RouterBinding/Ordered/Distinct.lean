import RouterBinding.Ordered.Table

/-!
# Distinct ids in order

`distinct` sorts a list and drops repetitions: `mem_distinct` says that it keeps the members and
`pairwise_distinct` that they come out in strictly increasing order.
-/

namespace RouterBinding

variable {κ : Type} [Ord κ] [Std.TransOrd κ]

/-- The members of a list, each once, in increasing order. -/
def distinct (ids : List κ) : List κ := (Table.ofRows (ids.map fun id => (id, ()))).keys

theorem pairwise_distinct (ids : List κ) :
    (distinct ids).Pairwise fun a b => compare a b = .lt :=
  List.pairwise_map.2 (Table.ofRows (ids.map fun id => (id, ()))).increasing

theorem mem_keys_of_rows [Std.LawfulEqOrd κ] (ids : List κ) (t : Table κ Unit) (k : κ) :
    k ∈ ((ids.map fun id => (id, ())).foldl (fun t row => t.insert row.1 row.2) t).keys ↔
      k ∈ ids ∨ k ∈ t.keys := by
  induction ids generalizing t with
  | nil => simp
  | cons id ids ih =>
    have hkeys : ∀ (u : Table κ Unit), k ∈ u.keys ↔ u.get? k = some () := fun u => by
      rw [← Table.mem_rows_iff]
      exact ⟨fun h => by obtain ⟨⟨_, ⟨⟩⟩, hrow, rfl⟩ := List.mem_map.1 h; exact hrow,
        fun h => List.mem_map.2 ⟨_, h, rfl⟩⟩
    simp only [List.map_cons, List.foldl_cons, ih, List.mem_cons]
    rw [hkeys (t.insert id ()), hkeys t, Table.get_insert]
    by_cases h : compare id k = .eq
    · obtain rfl : id = k := by simpa using h
      simp
    · have : k ≠ id := fun e => h (by simp [e])
      simp [h, this]

/-- Sorting keeps exactly the members. -/
theorem mem_distinct [Std.LawfulEqOrd κ] {ids : List κ} {k : κ} : k ∈ distinct ids ↔ k ∈ ids := by
  have h := mem_keys_of_rows ids ∅ k
  rwa [show (∅ : Table κ Unit).keys = [] from rfl, List.mem_nil_iff, or_false] at h

end RouterBinding
