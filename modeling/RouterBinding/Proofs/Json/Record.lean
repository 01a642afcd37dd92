import Mathlib.Data.List.Nodup
import RouterBinding.Json.Record
import RouterBinding.Proofs.Json.RoundTrip

/-!
# Reading back records

A value is `Faithful` if it is read back from the text that it is written as, and from every other
object with the same members: these may come in any order, and others of unknown names may stand
among them. `Faithful.of_record` is the one argument for all record types: a decoder asks for its
members by name, and `Record.record_of_perm` says that it finds them. `Record.required_text` and the
lemmas after it then decode one member, each for a kind of member.
-/

namespace RouterBinding.Json

/-- The value is read back from its text, and from every object with the members of that text in any
order and others of unknown names among them. -/
structure Faithful {α : Type} (toTree : α → Tree) (ofTree? : Tree → Option α) (a : α) : Prop where
  read_back : (Tree.parse? (toTree a).compact).bind ofTree? = some a
  read_extended : ∃ known, toTree a = .record known ∧
    ∀ members extra : List (String × Tree), members.Perm (known ++ extra) →
      (∀ member ∈ extra, member.1 ∉ known.map Prod.fst) →
      (∀ text, Tree.parse? text = some (.record members) →
        (Tree.parse? text).bind ofTree? = some a) ∧
      ((∀ member ∈ extra, member.2.Valid) →
        (Tree.parse? (Tree.record members).compact).bind ofTree? = some a)

/-! ## Valid records -/

theorem items_valid_iff {items : List Tree} : ItemsValid items ↔ ∀ item ∈ items, item.Valid := by
  induction items with
  | nil => simp [ItemsValid]
  | cons item items ih => simp [ItemsValid, ih]

theorem record_valid_iff {members : List (String × Tree)} :
    (Tree.record members).Valid ↔ ∀ member ∈ members, member.2.Valid := by
  rw [Tree.record, Tree.Valid]
  induction members with
  | nil => simp [MembersValid]
  | cons member members ih => simp [MembersValid, ih]

theorem record_injective : Function.Injective Tree.record := by
  refine fun members members' h => List.map_injective_iff.2 (fun a b hab => ?_) (Tree.object.inj h)
  obtain ⟨hname, htree⟩ := Prod.mk.inj hab
  exact Prod.ext (Option.some.inj hname) htree

theorem text_valid (s : String) : (Tree.text s).Valid := trivial

theorem bool_valid (b : Bool) : (Tree.bool b).Valid := trivial

theorem null_valid : Tree.null.Valid := trivial

theorem optional_valid (s : Option String) : (Tree.optional s).Valid := by
  cases s <;> trivial

/-! ## The members of a record -/

namespace Record

theorem named_record (members : List (String × Tree)) :
    named? (members.map fun member => (some member.1, member.2)) = some members := by
  induction members with
  | nil => rfl
  | cons member members ih => simp [named?, ih]

theorem get_of_mem {found : List (String × Tree)} (hnames : (found.map Prod.fst).Nodup)
    {member : String × Tree} (h : member ∈ found) :
    (Record.mk found).get? member.1 = some member.2 := by
  induction found with
  | nil => cases h
  | cons head found ih =>
    obtain ⟨hhead, hnames⟩ := List.nodup_cons.1 hnames
    rcases List.mem_cons.1 h with rfl | h
    · simp [get?]
    · have hne : head.1 ≠ member.1 := fun e => hhead (e ▸ List.mem_map_of_mem h)
      simpa [get?, hne] using ih hnames h

theorem length_filter_le_one {found : List (String × Tree)} (hnames : (found.map Prod.fst).Nodup)
    (name : String) : (found.filter fun member => member.1 = name).length ≤ 1 := by
  have h := List.nodup_iff_count_le_one.1 hnames name
  rw [List.count, List.countP_map, List.countP_eq_length_filter] at h
  exact h

variable {declared : List Member} {known extra members : List (String × Tree)}

/-- An object gives its declared members if no two of them have one name. -/
theorem of_members_eq
    (hnames : ((members.filter fun m => declared.any (·.name = m.1)).map Prod.fst).Nodup) :
    ofMembers? declared (members.map fun member => (some member.1, member.2)) =
      some ⟨members.filter fun m => declared.any (·.name = m.1)⟩ := by
  rw [ofMembers?, named_record, Option.bind_eq_bind, Option.bind_some]
  generalize (members.filter fun m => declared.any (·.name = m.1)) = found at hnames
  have hsingle : declared.all fun m => (found.filter (·.1 = m.name)).length ≤ 1 :=
    List.all_eq_true.2 fun m _ => decide_eq_true (length_filter_le_one hnames m.name)
  simp only [hsingle]
  rfl

/-- The declared members of an object are found by their names, wherever they stand and whatever
others stand among them. -/
theorem record_of_perm (hdeclared : declared.map (·.name) = known.map Prod.fst)
    (hnames : (known.map Prod.fst).Nodup) (hperm : members.Perm (known ++ extra))
    (hextra : ∀ member ∈ extra, member.1 ∉ known.map Prod.fst) :
    ∃ r, (Tree.record members).record? declared = some r ∧
      ∀ member ∈ known, r.get? member.1 = some member.2 := by
  have hany (name : String) : declared.any (·.name = name) ↔ name ∈ known.map Prod.fst := by
    rw [← hdeclared]
    simp
  have hfound : (members.filter fun m => declared.any (·.name = m.1)).Perm known := by
    refine (hperm.filter _).trans (List.Perm.of_eq ?_)
    rw [List.filter_append, List.filter_eq_self.2, List.filter_eq_nil_iff.2, List.append_nil]
    · exact fun member hmember h => hextra member hmember ((hany _).1 h)
    · exact fun member hmember => (hany _).2 (List.mem_map_of_mem hmember)
  have hnodup := (hfound.map Prod.fst).nodup_iff.2 hnames
  exact ⟨_, of_members_eq hnodup, fun member hmember =>
    get_of_mem hnodup (hfound.mem_iff.2 hmember)⟩

/-! ### Decoding one member -/

variable {r : Record} {name : String}

theorem required_text {s : String} (hget : r.get? name = some (.text s)) :
    r.required? name Tree.text? = some s := by
  rw [required?, hget]
  rfl

theorem required_bool {b : Bool} (hget : r.get? name = some (.bool b)) :
    r.required? name Tree.bool? = some b := by
  rw [required?, hget]
  rfl

theorem optional_text {s : Option String} (hget : r.get? name = some (.optional s)) :
    r.optional? name Tree.text? = some s := by
  rw [optional?, hget]
  cases s <;> rfl

theorem default_of_get {α : Type} {fallback a : α} {decode : Tree → Option α} {tree : Tree}
    (hget : r.get? name = some tree) (hdecode : decode tree = some a) :
    r.default? name fallback decode = some a := by
  rw [default?, hget]
  exact hdecode

end Record

/-- A list of records is decoded from the array of them. -/
theorem list_of_items {α : Type} {toTree : α → Tree} {ofTree? : Tree → Option α}
    (h : ∀ a, ofTree? (toTree a) = some a) (as : List α) :
    Tree.list? ofTree? (.array (as.map toTree)) = some as := by
  rw [Tree.list?]
  induction as with
  | nil => rfl
  | cons a as ih => simp [h, ih]

/-! ## Faithful records -/

/-- A value is faithful if its decoder takes every declared member from where its name is found. -/
theorem Faithful.of_record {α : Type} {toTree : α → Tree} {ofTree? : Tree → Option α} {a : α}
    {declared : List Member} {known : List (String × Tree)} {decode : Record → Option α}
    (hdecode : ∀ tree, ofTree? tree = (tree.record? declared).bind decode)
    (hwritten : toTree a = .record known)
    (hdeclared : declared.map (·.name) = known.map Prod.fst) (hnames : (known.map Prod.fst).Nodup)
    (hvalid : ∀ member ∈ known, member.2.Valid)
    (hread : ∀ r : Record, (∀ member ∈ known, r.get? member.1 = some member.2) →
      decode r = some a) :
    Faithful toTree ofTree? a := by
  have hextended (members extra : List (String × Tree)) (hperm : members.Perm (known ++ extra))
      (hextra : ∀ member ∈ extra, member.1 ∉ known.map Prod.fst) :
      ofTree? (.record members) = some a := by
    obtain ⟨r, hr, hget⟩ := Record.record_of_perm hdeclared hnames hperm hextra
    rw [hdecode, hr, Option.bind_some, hread r hget]
  constructor
  · rw [hwritten, parse_compact (record_valid_iff.2 hvalid), Option.bind_some]
    exact hextended known [] (List.Perm.of_eq (List.append_nil known).symm) (by simp)
  · refine ⟨known, hwritten, fun members extra hperm hextra => ⟨fun text htext => ?_, fun h => ?_⟩⟩
    · rw [htext, Option.bind_some]
      exact hextended members extra hperm hextra
    · have hmembers : ∀ member ∈ members, member.2.Valid := fun member hmember =>
        (List.mem_append.1 (hperm.mem_iff.1 hmember)).elim (hvalid member) (h member)
      rw [parse_compact (record_valid_iff.2 hmembers), Option.bind_some]
      exact hextended members extra hperm hextra

end RouterBinding.Json
