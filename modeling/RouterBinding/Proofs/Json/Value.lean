import RouterBinding.Json.Value
import RouterBinding.Proofs.Json.RoundTrip
import RouterBinding.Proofs.Text.Digits

/-!
# Reading back free-form values

A value that a decoder can have made is `Canonical`: `canonical_of_tree` says that decoding gives no
others, and none that nests deeper than it is allowed to. Without floating-point numbers such a
value is decoded from its tree as it was (`Value.of_tree_to_tree`). Floating-point numbers are left
out: their shortest decimal is written, and reading rounds more than once.
-/

namespace RouterBinding.Json

/-! ## Integers -/

namespace Numeral

theorem of_int_valid (n : Int) : (ofInt n).Valid where
  whole := ⟨Nat.toDigits_ne_nil, fun _ => is_digit_of_mem_to_digits⟩
  leading h := by
    rcases Nat.eq_zero_or_pos n.natAbs with hn | hn
    · simp [ofInt, hn]
    · exact absurd h (to_digits_head hn)
  fraction := by simp [ofInt]
  exponent := by simp [ofInt]

theorem to_int_of_int (n : Int) : (ofInt n).toInt? = some n := by
  cases n with
  | ofNat n => simp [toInt?, ofInt]
  | negSucc n =>
    have hwritten : (ofInt (.negSucc n)).toInt? = some (-((n + 1 : Nat) : Int)) := by
      simp [toInt?, ofInt, Int.negSucc_lt_zero]
    rw [hwritten, Int.neg_ofNat_succ]

end Numeral

/-- An integer has 64 bits, with or without a sign. -/
def Number.Canonical : Number → Prop
  | .integer n => Int64.minValue.toInt ≤ n ∧ n < UInt64.size
  | .real _ => True

def Number.IsInteger : Number → Prop
  | .integer _ => True
  | .real _ => False

theorem Number.of_numeral_to_numeral {n : Number} (hn : n.Canonical) (hint : n.IsInteger) :
    Number.ofNumeral? n.toNumeral = some n := by
  cases n with
  | integer m =>
    rw [ofNumeral?, toNumeral, Numeral.to_int_of_int]
    exact if_pos hn
  | real x => exact hint.elim

theorem Number.canonical_of_numeral {numeral : Numeral} {n : Number}
    (h : Number.ofNumeral? numeral = some n) : n.Canonical := by
  have hreal : ∀ n, ofNumeral?.real? numeral = some n → n.Canonical := by
    intro n h
    obtain ⟨x, -, rfl⟩ : ∃ x, double? (scientific numeral) = some x ∧
        Number.real { x with negative := numeral.negative } = n := by
      simpa [ofNumeral?.real?, Option.bind_eq_some_iff] using h
    trivial
  unfold ofNumeral? at h
  split at h
  next m _ =>
    split at h
    next hm =>
      obtain rfl := Option.some.inj h
      exact hm
    next => exact hreal n h
  next => exact hreal n h

/-! ## Values -/

namespace Value

mutual

/-- How deep arrays and objects nest in a value. -/
def depth : Value → Nat
  | .array items => itemsDepth items + 1
  | .object members => membersDepth members + 1
  | _ => 0

def itemsDepth : List Value → Nat
  | [] => 0
  | item :: items => max item.depth (itemsDepth items)

def membersDepth : List (String × Value) → Nat
  | [] => 0
  | (_, value) :: members => max value.depth (membersDepth members)

end

mutual

/-- What every decoded value is: its integers have 64 bits, and the members of its objects come by
increasing name. -/
def Canonical : Value → Prop
  | .number n => n.Canonical
  | .array items => ItemsCanonical items
  | .object members =>
    members.Pairwise (fun a b => compare a.1 b.1 = .lt) ∧ MembersCanonical members
  | _ => True

def ItemsCanonical : List Value → Prop
  | [] => True
  | item :: items => item.Canonical ∧ ItemsCanonical items

def MembersCanonical : List (String × Value) → Prop
  | [] => True
  | (_, value) :: members => value.Canonical ∧ MembersCanonical members

end

mutual

/-- Every number in the value is an integer. -/
def IntegersOnly : Value → Prop
  | .number n => n.IsInteger
  | .array items => ItemsIntegersOnly items
  | .object members => MembersIntegersOnly members
  | _ => True

def ItemsIntegersOnly : List Value → Prop
  | [] => True
  | item :: items => item.IntegersOnly ∧ ItemsIntegersOnly items

def MembersIntegersOnly : List (String × Value) → Prop
  | [] => True
  | (_, value) :: members => value.IntegersOnly ∧ MembersIntegersOnly members

end

/-! ### Writing and reading -/

mutual

theorem to_tree_valid {v : Value} (hv : v.IntegersOnly) : v.toTree.Valid := by
  cases v with
  | null | bool _ | string _ => trivial
  | number n =>
    cases n with
    | integer m => exact Numeral.of_int_valid m
    | real x => exact hv.elim
  | array items => exact item_trees_valid hv
  | object members => exact member_trees_valid hv

theorem item_trees_valid {items : List Value} (h : ItemsIntegersOnly items) :
    ItemsValid (itemTrees items) := by
  cases items with
  | nil => trivial
  | cons item items => exact ⟨to_tree_valid h.1, item_trees_valid h.2⟩

theorem member_trees_valid {members : List (String × Value)} (h : MembersIntegersOnly members) :
    MembersValid (memberTrees members) := by
  rcases members with _ | ⟨⟨name, value⟩, members⟩
  · trivial
  · exact ⟨to_tree_valid h.1, member_trees_valid h.2⟩

end

mutual

/-- A value is decoded from its tree as it was. -/
theorem of_tree_to_tree {room : Nat} {v : Value} (hv : v.Canonical) (hint : v.IntegersOnly)
    (hdepth : v.depth ≤ room) : ofTree? room v.toTree = some v := by
  cases v with
  | null | bool _ | string _ => rfl
  | number n => simp [toTree, ofTree?, Number.of_numeral_to_numeral hv hint]
  | array items =>
    obtain ⟨room, rfl⟩ := Nat.exists_eq_add_of_le' (Nat.le_trans (Nat.le_add_left 1 _) hdepth)
    have hitems := items_of_item_trees hv hint (Nat.le_of_succ_le_succ hdepth)
    simp [toTree, ofTree?, guard, hitems]
  | object members =>
    obtain ⟨room, rfl⟩ := Nat.exists_eq_add_of_le' (Nat.le_trans (Nat.le_add_left 1 _) hdepth)
    have hmembers := members_of_member_trees hv.2 hint (Nat.le_of_succ_le_succ hdepth)
    simp [toTree, ofTree?, guard, hmembers, Table.rows_of_rows hv.1]

theorem items_of_item_trees {room : Nat} {items : List Value} (h : ItemsCanonical items)
    (hint : ItemsIntegersOnly items) (hdepth : itemsDepth items ≤ room) :
    itemsOfTrees? room (itemTrees items) = some items := by
  cases items with
  | nil => rfl
  | cons item items =>
    obtain ⟨hfirst, hrest⟩ := Nat.max_le.1 hdepth
    have hitem := of_tree_to_tree h.1 hint.1 hfirst
    have hitems := items_of_item_trees h.2 hint.2 hrest
    simp [itemTrees, itemsOfTrees?, hitem, hitems]

theorem members_of_member_trees {room : Nat} {members : List (String × Value)}
    (h : MembersCanonical members) (hint : MembersIntegersOnly members)
    (hdepth : membersDepth members ≤ room) :
    membersOfTrees? room (memberTrees members) = some members := by
  rcases members with _ | ⟨⟨name, value⟩, members⟩
  · rfl
  · obtain ⟨hfirst, hrest⟩ := Nat.max_le.1 hdepth
    have hvalue := of_tree_to_tree h.1 hint.1 hfirst
    have hmembers := members_of_member_trees h.2 hint.2 hrest
    simp [memberTrees, membersOfTrees?, hvalue, hmembers]

end

/-- A table of values is decoded from its tree as it was. -/
theorem table_of_tree_to_tree {room : Nat} {t : Table String Value}
    (ht : (Value.object t.rows).Canonical) (hint : (Value.object t.rows).IntegersOnly)
    (hdepth : (Value.object t.rows).depth ≤ room) :
    tableOfTree? room (tableTree t) = some t := by
  obtain ⟨room, rfl⟩ := Nat.exists_eq_add_of_le' (Nat.le_trans (Nat.le_add_left 1 _) hdepth)
  have hmembers := members_of_member_trees ht.2 hint (Nat.le_of_succ_le_succ hdepth)
  have htable : Table.ofRows t.rows = t := Table.ext (Table.rows_of_rows t.increasing)
  simp [tableTree, tableOfTree?, guard, hmembers, htable]

/-! ### What is decoded -/

theorem members_canonical_iff {members : List (String × Value)} :
    MembersCanonical members ↔ ∀ member ∈ members, member.2.Canonical := by
  induction members with
  | nil => simp [MembersCanonical]
  | cons member members ih => simp [MembersCanonical, ih]

theorem members_depth_le_iff {room : Nat} {members : List (String × Value)} :
    membersDepth members ≤ room ↔ ∀ member ∈ members, member.2.depth ≤ room := by
  induction members with
  | nil => simp [membersDepth]
  | cons member members ih => rw [membersDepth, Nat.max_le, ih, List.forall_mem_cons]

/-- Sorting members and dropping repeated names gives the members of a decoded object. -/
theorem canonical_of_rows {room : Nat} {members : List (String × Value)}
    (h : MembersCanonical members ∧ membersDepth members ≤ room) :
    (Value.object (Table.ofRows members).rows).Canonical ∧
      (Value.object (Table.ofRows members).rows).depth ≤ room + 1 := by
  have hmem : ∀ member ∈ (Table.ofRows members).rows, member ∈ members :=
    fun _ => Table.mem_of_mem_of_rows
  refine ⟨⟨(Table.ofRows members).increasing, ?_⟩, Nat.succ_le_succ ?_⟩
  · exact members_canonical_iff.2 fun m hm => members_canonical_iff.1 h.1 m (hmem m hm)
  · exact members_depth_le_iff.2 fun m hm => members_depth_le_iff.1 h.2 m (hmem m hm)

mutual

/-- A decoded value is canonical and nests no deeper than it may. -/
theorem canonical_of_tree {room : Nat} {t : Tree} {v : Value} (h : ofTree? room t = some v) :
    v.Canonical ∧ v.depth ≤ room := by
  cases t with
  | null | bool _ =>
    obtain rfl := Option.some.inj h
    exact ⟨trivial, Nat.zero_le room⟩
  | number numeral =>
    obtain ⟨n, hn, rfl⟩ := Option.map_eq_some_iff.1 h
    exact ⟨Number.canonical_of_numeral hn, Nat.zero_le room⟩
  | string s =>
    obtain ⟨s, -, rfl⟩ := Option.map_eq_some_iff.1 h
    exact ⟨trivial, Nat.zero_le room⟩
  | array items =>
    cases room with
    | zero => simp [ofTree?, guard] at h
    | succ room =>
      obtain ⟨values, hvalues, rfl⟩ : ∃ values, itemsOfTrees? room items = some values ∧
          Value.array values = v := by
        simpa [ofTree?, guard, Option.bind_eq_some_iff] using h
      obtain ⟨hcanonical, hdepth⟩ := canonical_of_items hvalues
      exact ⟨hcanonical, Nat.succ_le_succ hdepth⟩
  | object members =>
    cases room with
    | zero => simp [ofTree?, guard] at h
    | succ room =>
      obtain ⟨values, hvalues, rfl⟩ : ∃ values, membersOfTrees? room members = some values ∧
          Value.object (Table.ofRows values).rows = v := by
        simpa [ofTree?, guard, Option.bind_eq_some_iff] using h
      exact canonical_of_rows (canonical_of_members hvalues)

theorem canonical_of_items {room : Nat} {items : List Tree} {values : List Value}
    (h : itemsOfTrees? room items = some values) :
    ItemsCanonical values ∧ itemsDepth values ≤ room := by
  cases items with
  | nil =>
    obtain rfl := Option.some.inj h
    exact ⟨trivial, Nat.zero_le room⟩
  | cons item items =>
    obtain ⟨value, hvalue, rest, hrest, rfl⟩ : ∃ value, ofTree? room item = some value ∧
        ∃ rest, itemsOfTrees? room items = some rest ∧ value :: rest = values := by
      simpa [itemsOfTrees?, Option.bind_eq_some_iff] using h
    obtain ⟨hcanonical, hdepth⟩ := canonical_of_tree hvalue
    obtain ⟨hcanonicals, hdepths⟩ := canonical_of_items hrest
    exact ⟨⟨hcanonical, hcanonicals⟩, Nat.max_le.2 ⟨hdepth, hdepths⟩⟩

theorem canonical_of_members {room : Nat} {members : List (Option String × Tree)}
    {values : List (String × Value)} (h : membersOfTrees? room members = some values) :
    MembersCanonical values ∧ membersDepth values ≤ room := by
  rcases members with _ | ⟨⟨name, tree⟩, members⟩
  · obtain rfl := Option.some.inj h
    exact ⟨trivial, Nat.zero_le room⟩
  · obtain ⟨value, hvalue, name, -, rest, hrest, rfl⟩ : ∃ value, ofTree? room tree = some value ∧
        ∃ text, name = some text ∧ ∃ rest, membersOfTrees? room members = some rest ∧
          (text, value) :: rest = values := by
      simpa [membersOfTrees?, Option.bind_eq_some_iff] using h
    obtain ⟨hcanonical, hdepth⟩ := canonical_of_tree hvalue
    obtain ⟨hcanonicals, hdepths⟩ := canonical_of_members hrest
    exact ⟨⟨hcanonical, hcanonicals⟩, Nat.max_le.2 ⟨hdepth, hdepths⟩⟩

end

theorem of_tree_of_table {room : Nat} {tree : Tree} {t : Table String Value}
    (h : tableOfTree? room tree = some t) : ofTree? room tree = some (.object t.rows) := by
  cases tree with
  | object members =>
    obtain ⟨hroom, values, hvalues, rfl⟩ : 0 < room ∧ ∃ values,
        membersOfTrees? (room - 1) members = some values ∧ Table.ofRows values = t := by
      simpa [tableOfTree?, Option.bind_eq_some_iff] using h
    simp [ofTree?, guard, hroom, hvalues]
  | _ => simp [tableOfTree?] at h

end Value

end RouterBinding.Json
