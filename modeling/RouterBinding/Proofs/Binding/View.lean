import RouterBinding.Binding.Store
import RouterBinding.Proofs.Binding.Row

/-!
# The bindings of a store

A store is `Sound` if every row is the text of a binding under the key of that binding. Such a store
is its bindings: `Store.snatRow?` and `Store.isBound` read them without failing, each query answers
from them (`Sound.snat_of`, `Sound.has_host`, `Sound.select_hosts`), and each transaction changes
them as its name says. The rest of the theory speaks of stores through these two views.
-/

namespace RouterBinding

namespace Table

variable {κ α : Type} [Ord κ] [Std.LawfulEqOrd κ]

/-- Erasing some keys leaves the rows under all others. -/
theorem get_foldl_erase [DecidableEq κ] (keys : List κ) (t : Table κ α) (k : κ) :
    (keys.foldl erase t).get? k = if k ∈ keys then none else t.get? k := by
  induction keys generalizing t with
  | nil => simp
  | cons head keys ih =>
      rw [List.foldl_cons, ih, get_erase]
      by_cases hmem : k ∈ keys
      · simp [hmem]
      · by_cases hhead : head = k
        · simp [hhead]
        · have hne : k ≠ head := fun h => hhead h.symm
          simp [hmem, hhead, hne]

/-- Every row of a table is the text of an item, under the key of that item. -/
def Written {α : Type} (key toText : α → String) (t : Table String String) : Prop :=
  ∀ k text, t.get? k = some text → ∃ a, k = key a ∧ text = toText a

namespace Written

variable {α : Type} {key toText : α → String} {ofText? : String → Option α}
  {t : Table String String}

theorem empty : Written key toText (∅ : Table String String) := by
  intro k text h
  simp at h

theorem insert (ht : Written key toText t) (a : α) :
    Written key toText (t.insert (key a) (toText a)) := by
  intro k text h
  rw [get_insert] at h
  split at h
  next heq =>
    obtain rfl : key a = k := by simpa using heq
    obtain rfl : toText a = text := by simpa using h
    exact ⟨a, rfl, rfl⟩
  next => exact ht k text h

theorem erase (ht : Written key toText t) (k : String) : Written key toText (t.erase k) := by
  intro l text h
  rw [get_erase] at h
  split at h
  · cases h
  · exact ht l text h

theorem foldl_erase (ht : Written key toText t) (keys : List String) :
    Written key toText (keys.foldl Table.erase t) := by
  induction keys generalizing t with
  | nil => exact ht
  | cons head keys ih => exact ih (ht.erase head)

/-- What is found under a key decodes to the item of that key. -/
theorem decodes (ht : Written key toText t) (hread : ∀ a, ofText? (toText a) = some a)
    {k text : String} (h : t.get? k = some text) :
    ∃ a, ofText? text = some a ∧ k = key a ∧ text = toText a := by
  obtain ⟨a, hkey, htext⟩ := ht k text h
  exact ⟨a, htext ▸ hread a, hkey, htext⟩

/-- Looking up a row never fails. -/
theorem row (ht : Written key toText t) (hread : ∀ a, ofText? (toText a) = some a)
    (k : String) : Store.row? ofText? t k = .ok ((t.get? k).bind ofText?) := by
  unfold Store.row?
  cases hget : t.get? k with
  | none => rfl
  | some text =>
      obtain ⟨a, htext, -, -⟩ := ht.decodes hread hget
      simp [Store.decoded, htext, Except.map]

/-- The rows are some items, each written under its key. -/
theorem items (ht : Written key toText t) :
    ∃ items : List α, t.rows = items.map fun a => (key a, toText a) := by
  have hlist : ∀ rows : List (String × String), (∀ row ∈ rows, row ∈ t.rows) →
      ∃ items : List α, rows = items.map fun a => (key a, toText a) := by
    intro rows hrows
    induction rows with
    | nil => exact ⟨[], rfl⟩
    | cons row rows ih =>
        obtain ⟨items, hitems⟩ := ih fun r hr => hrows r (List.mem_cons_of_mem _ hr)
        obtain ⟨a, hkey, htext⟩ := ht _ _ ((mem_rows_iff t).1 (hrows row List.mem_cons_self))
        exact ⟨a :: items, by rw [List.map_cons, ← hitems, ← hkey, ← htext]⟩
  exact hlist t.rows fun row h => h

/-- Listing the rows never fails and gives each item that its key finds, in the order of keys. -/
theorem scan (ht : Written key toText t) (hread : ∀ a, ofText? (toText a) = some a) :
    ∃ items : List α, Store.scan ofText? t = .ok (items.map fun a => (key a, a)) ∧
      items.map key = t.keys ∧ ∀ a, a ∈ items ↔ t.get? (key a) = some (toText a) := by
  obtain ⟨items, hrows⟩ := ht.items
  refine ⟨items, ?_, ?_, fun a => ?_⟩
  · have hdecode : ((fun row : String × String =>
        (Store.decoded ofText? row.2).map fun a => (row.1, a)) ∘ fun a => (key a, toText a)) =
        fun a => pure (key a, a) := by
      funext a
      simp only [Function.comp, Store.decoded, hread]
      rfl
    rw [Store.scan, hrows, List.mapM_map, hdecode, List.mapM_pure]
    rfl
  · rw [keys, hrows, List.map_map]
    rfl
  · rw [← mem_rows_iff, hrows]
    constructor
    · intro h
      exact List.mem_map.2 ⟨a, h, rfl⟩
    · intro h
      obtain ⟨b, hb, heq⟩ := List.mem_map.1 h
      have htexts : toText b = toText a := congrArg Prod.snd heq
      obtain rfl : b = a := by simpa [hread] using congrArg ofText? htexts
      exact hb

/-- Listing the items that have a property never fails and gives exactly those. -/
theorem select (ht : Written key toText t) (hread : ∀ a, ofText? (toText a) = some a)
    (keep : α → Bool) :
    ∃ items, Store.select ofText? t keep = .ok items ∧
      ∀ a, a ∈ items ↔ keep a ∧ t.get? (key a) = some (toText a) := by
  obtain ⟨items, hitems, -, hmem⟩ := ht.scan hread
  refine ⟨items.filter keep, ?_, fun a => ?_⟩
  · have hitem : (Prod.snd ∘ fun a : α => (key a, a)) = id := rfl
    simp [Store.select, hitems, Except.map, hitem]
  · rw [List.mem_filter, hmem, and_comm]

/-- The keys of the items that have a property are found without failing. -/
theorem keys_where (ht : Written key toText t) (hread : ∀ a, ofText? (toText a) = some a)
    (keep : α → Bool) :
    ∃ keys, Transaction.keysWhere ofText? t keep = .ok keys ∧
      ∀ k, k ∈ keys ↔ ((t.get? k).bind ofText?).any keep := by
  obtain ⟨items, hitems, -, hmem⟩ := ht.scan hread
  refine ⟨(items.filter keep).map key, ?_, fun k => ?_⟩
  · rw [Transaction.keysWhere, hitems]
    simp only [Except.map, List.filter_map, List.map_map]
    rfl
  · simp only [List.mem_map, List.mem_filter, hmem]
    constructor
    · rintro ⟨a, ⟨hget, hkeep⟩, rfl⟩
      simp [hget, hread, hkeep]
    · intro h
      obtain ⟨a, ha, hkeep⟩ := (Option.any_eq_true _ _).1 h
      obtain ⟨text, hget, htext⟩ := Option.bind_eq_some_iff.1 ha
      obtain ⟨c, hread', hkey, hwritten⟩ := ht.decodes hread hget
      obtain rfl : c = a := by simpa [hread'] using htext
      exact ⟨c, ⟨hkey ▸ hwritten ▸ hget, hkeep⟩, hkey.symm⟩

/-- Dropping the items that have a property leaves all others. -/
theorem drop_where (ht : Written key toText t) (hread : ∀ a, ofText? (toText a) = some a)
    (drop : α → Bool) :
    ∃ keys, Transaction.keysWhere ofText? t drop = .ok keys ∧
      Written key toText (keys.foldl Table.erase t) ∧
      ∀ k, (keys.foldl Table.erase t).get? k =
        if ((t.get? k).bind ofText?).any drop then none else t.get? k := by
  obtain ⟨keys, hkeys, hmem⟩ := ht.keys_where hread drop
  refine ⟨keys, hkeys, ht.foldl_erase keys, fun k => ?_⟩
  rw [get_foldl_erase]
  simp only [hmem]

end Written

end Table

namespace Store

/-- The SNAT binding of a router, read without failing. -/
def snatRow? (s : Store) (router : String) : Option SnatBinding :=
  (s.snat.get? router).bind SnatBinding.ofText?

/-- Whether a router is bound to an agent, asked without failing. -/
def isBound (s : Store) (router agent : String) : Bool :=
  s.hosts.contains (HostBinding.key ⟨router, agent⟩)

/-- Every row is the text of a binding under the key of that binding. -/
structure Sound (s : Store) : Prop where
  snat : s.snat.Written SnatBinding.key SnatBinding.toText
  hosts : s.hosts.Written HostBinding.key HostBinding.toText

def putSnat (s : Store) (b : SnatBinding) : Store :=
  { s with snat := s.snat.insert b.key b.toText }

def dropSnat (s : Store) (router : String) : Store := { s with snat := s.snat.erase router }

def putHost (s : Store) (b : HostBinding) : Store :=
  { s with hosts := s.hosts.insert b.key b.toText }

def dropHost (s : Store) (b : HostBinding) : Store := { s with hosts := s.hosts.erase b.key }

/-! ## What a write changes -/

@[simp] theorem snat_row_empty (router : String) : (∅ : Store).snatRow? router = none := rfl

@[simp] theorem is_bound_empty (router agent : String) :
    (∅ : Store).isBound router agent = false := rfl

@[simp] theorem snat_row_put_host (s : Store) (b : HostBinding) (router : String) :
    (s.putHost b).snatRow? router = s.snatRow? router := rfl

@[simp] theorem snat_row_drop_host (s : Store) (b : HostBinding) (router : String) :
    (s.dropHost b).snatRow? router = s.snatRow? router := rfl

@[simp] theorem is_bound_put_snat (s : Store) (b : SnatBinding) (router agent : String) :
    (s.putSnat b).isBound router agent = s.isBound router agent := rfl

@[simp] theorem is_bound_drop_snat (s : Store) (router' router agent : String) :
    (s.dropSnat router').isBound router agent = s.isBound router agent := rfl

/-- A SNAT binding replaces that of its router only. -/
theorem snat_row_put_snat (s : Store) (b : SnatBinding) (router : String) :
    (s.putSnat b).snatRow? router = if b.router = router then some b else s.snatRow? router := by
  unfold snatRow? putSnat
  rw [Table.get_insert]
  by_cases h : b.router = router
  · simp [SnatBinding.key, h, SnatBinding.of_text_to_text]
  · simp [SnatBinding.key, h]

theorem snat_row_drop_snat (s : Store) (router' router : String) :
    (s.dropSnat router').snatRow? router =
      if router' = router then none else s.snatRow? router := by
  unfold snatRow? dropSnat
  rw [Table.get_erase]
  by_cases h : router' = router <;> simp [h]

/-- A router and an agent are bound by one host binding and no other. -/
theorem is_bound_put_host (s : Store) (b : HostBinding) (router agent : String) :
    (s.putHost b).isBound router agent =
      (decide (b = ⟨router, agent⟩) || s.isBound router agent) := by
  unfold isBound putHost Table.contains
  rw [Table.get_insert]
  by_cases h : b = ⟨router, agent⟩
  · simp [h]
  · have hkey : b.key ≠ HostBinding.key ⟨router, agent⟩ := fun e => h (HostBinding.key_inj e)
    simp [h, hkey]

theorem is_bound_drop_host (s : Store) (b : HostBinding) (router agent : String) :
    (s.dropHost b).isBound router agent =
      (!decide (b = ⟨router, agent⟩) && s.isBound router agent) := by
  unfold isBound dropHost Table.contains
  rw [Table.get_erase]
  by_cases h : b = ⟨router, agent⟩
  · simp [h]
  · have hkey : b.key ≠ HostBinding.key ⟨router, agent⟩ := fun e => h (HostBinding.key_inj e)
    simp [h, hkey]

/-! ## What a write changes in a store of any content -/

@[simp] theorem has_host_drop_snat (s : Store) (router' router agent : String) :
    (s.dropSnat router').hasHost router agent = s.hasHost router agent := rfl

theorem has_host_put_host (s : Store) (b : HostBinding) (router agent : String) :
    (s.putHost b).hasHost router agent =
      if b = ⟨router, agent⟩ then .ok true else s.hasHost router agent := by
  unfold hasHost row? putHost
  rw [Table.get_insert]
  by_cases h : b = ⟨router, agent⟩
  · simp [h, decoded, HostBinding.of_text_to_text, Except.map]
  · have hkey : b.key ≠ HostBinding.key ⟨router, agent⟩ := fun e => h (HostBinding.key_inj e)
    simp [h, hkey]

theorem has_host_drop_host (s : Store) (b : HostBinding) (router agent : String) :
    (s.dropHost b).hasHost router agent =
      if b = ⟨router, agent⟩ then .ok false else s.hasHost router agent := by
  unfold hasHost row? dropHost
  rw [Table.get_erase]
  by_cases h : b = ⟨router, agent⟩
  · simp [h, Except.map]
  · have hkey : b.key ≠ HostBinding.key ⟨router, agent⟩ := fun e => h (HostBinding.key_inj e)
    simp [h, hkey]

theorem has_host_foldl_drop_host (bs : List HostBinding) (s : Store) (router agent : String) :
    (bs.foldl dropHost s).hasHost router agent =
      if ⟨router, agent⟩ ∈ bs then .ok false else s.hasHost router agent := by
  induction bs generalizing s with
  | nil => rfl
  | cons b bs ih =>
      rw [List.foldl_cons, ih, has_host_drop_host]
      by_cases hmem : ⟨router, agent⟩ ∈ bs
      · simp [hmem]
      · by_cases hb : b = ⟨router, agent⟩
        · simp [hb]
        · have hne : ⟨router, agent⟩ ≠ b := fun e => hb e.symm
          simp [hmem, hb, hne]

namespace Sound

variable {s : Store}

theorem empty : Sound ∅ := ⟨.empty, .empty⟩

theorem put_snat (hs : s.Sound) (b : SnatBinding) : (s.putSnat b).Sound :=
  ⟨hs.snat.insert b, hs.hosts⟩

theorem drop_snat (hs : s.Sound) (router : String) : (s.dropSnat router).Sound :=
  ⟨hs.snat.erase router, hs.hosts⟩

theorem put_host (hs : s.Sound) (b : HostBinding) : (s.putHost b).Sound :=
  ⟨hs.snat, hs.hosts.insert b⟩

theorem drop_host (hs : s.Sound) (b : HostBinding) : (s.dropHost b).Sound :=
  ⟨hs.snat, hs.hosts.erase b.key⟩

/-! ## What a query answers -/

/-- A router has a SNAT binding exactly if a row is stored for it. -/
theorem snat_row_iff (hs : s.Sound) {router : String} {b : SnatBinding} :
    s.snatRow? router = some b ↔ b.router = router ∧ s.snat.get? b.router = some b.toText := by
  unfold snatRow?
  constructor
  · intro h
    obtain ⟨text, hget, htext⟩ := Option.bind_eq_some_iff.1 h
    obtain ⟨c, hread, hkey, hwritten⟩ :=
      hs.snat.decodes SnatBinding.of_text_to_text hget
    obtain rfl : c = b := by simpa [hread] using htext
    subst hkey hwritten
    exact ⟨rfl, hget⟩
  · rintro ⟨rfl, hget⟩
    simp [hget, SnatBinding.of_text_to_text]

theorem router_of_snat_row (hs : s.Sound) {router : String} {b : SnatBinding}
    (h : s.snatRow? router = some b) : b.router = router :=
  (hs.snat_row_iff.1 h).1

theorem contains_snat (hs : s.Sound) (router : String) :
    s.snat.contains router = (s.snatRow? router).isSome := by
  unfold snatRow? Table.contains
  cases hget : s.snat.get? router with
  | none => rfl
  | some text =>
      obtain ⟨b, hread, -, -⟩ := hs.snat.decodes SnatBinding.of_text_to_text hget
      simp [hread]

theorem snat_of (hs : s.Sound) (router : String) : s.snatOf? router = .ok (s.snatRow? router) :=
  hs.snat.row SnatBinding.of_text_to_text router

theorem has_host (hs : s.Sound) (router agent : String) :
    s.hasHost router agent = .ok (s.isBound router agent) := by
  rw [hasHost, hs.hosts.row HostBinding.of_text_to_text, isBound, Table.contains]
  cases hget : s.hosts.get? (HostBinding.key ⟨router, agent⟩) with
  | none => rfl
  | some text =>
      obtain ⟨b, hread, -, -⟩ := hs.hosts.decodes HostBinding.of_text_to_text hget
      simp [hread, Except.map]

/-- The SNAT bindings are listed without failing, one for each router that has one. -/
theorem snat_bindings (hs : s.Sound) :
    ∃ bs, s.snatBindings = .ok bs ∧ (∀ b, b ∈ bs ↔ s.snatRow? b.router = some b) ∧
      ∀ router, (bs.countP fun b => b.router = router) =
        if (s.snatRow? router).isSome then 1 else 0 := by
  obtain ⟨bs, hscan, hkeys, hmem⟩ := hs.snat.scan SnatBinding.of_text_to_text
  have hrows : ∀ b, b ∈ bs ↔ s.snatRow? b.router = some b := by
    intro b
    rw [hmem, hs.snat_row_iff]
    simp [SnatBinding.key]
  refine ⟨bs, ?_, hrows, fun router => ?_⟩
  · have hitem : (Prod.snd ∘ fun b : SnatBinding => (b.key, b)) = id := rfl
    simp [snatBindings, select, hscan, Except.map, hitem]
  · -- the keys of the rows increase, so no router is listed twice
    have hnodup : (bs.map SnatBinding.key).Nodup := by
      rw [hkeys]
      refine List.pairwise_map.2 (s.snat.increasing.imp fun hlt heq => ?_)
      simp [heq] at hlt
    have hcount := hnodup.count (a := router)
    have hlisted : router ∈ bs.map SnatBinding.key ↔ (s.snatRow? router).isSome := by
      rw [List.mem_map]
      constructor
      · rintro ⟨b, hb, rfl⟩
        rw [SnatBinding.key, (hrows b).1 hb]
        rfl
      · intro h
        obtain ⟨b, hb⟩ := Option.isSome_iff_exists.1 h
        obtain rfl := (hs.snat_row_iff.1 hb).1
        exact ⟨b, (hrows b).2 hb, rfl⟩
    rw [List.count, List.countP_map] at hcount
    simp only [hlisted] at hcount
    rw [← hcount]
    congr 1

theorem get_hosts_iff (hs : s.Sound) (b : HostBinding) :
    s.hosts.get? b.key = some b.toText ↔ s.isBound b.router b.agent := by
  unfold isBound Table.contains
  constructor
  · intro h
    simp [h]
  · intro h
    obtain ⟨text, hget⟩ := Option.isSome_iff_exists.1 h
    obtain ⟨c, hkey, htext⟩ := hs.hosts _ _ hget
    obtain rfl := HostBinding.key_inj hkey
    exact htext ▸ hget

/-- The host bindings that have a property are listed without failing. -/
theorem select_hosts (hs : s.Sound) (keep : HostBinding → Bool) :
    ∃ bs, Store.select HostBinding.ofText? s.hosts keep = .ok bs ∧
      ∀ b, b ∈ bs ↔ keep b ∧ s.isBound b.router b.agent := by
  obtain ⟨bs, hbs, hmem⟩ := hs.hosts.select HostBinding.of_text_to_text keep
  exact ⟨bs, hbs, fun b => by rw [hmem, hs.get_hosts_iff]⟩

theorem hosts_of_router (hs : s.Sound) (router : String) :
    ∃ bs, s.hostsOfRouter router = .ok bs ∧
      ∀ b, b ∈ bs ↔ b.router = router ∧ s.isBound b.router b.agent := by
  simpa [hostsOfRouter] using hs.select_hosts fun b => b.router = router

theorem hosts_of_agent (hs : s.Sound) (agent : String) :
    ∃ bs, s.hostsOfAgent agent = .ok bs ∧
      ∀ b, b ∈ bs ↔ b.agent = agent ∧ s.isBound b.router b.agent := by
  simpa [hostsOfAgent] using hs.select_hosts fun b => b.agent = agent

theorem host_bindings (hs : s.Sound) :
    ∃ bs, s.hostBindings = .ok bs ∧ ∀ b, b ∈ bs ↔ s.isBound b.router b.agent := by
  simpa [hostBindings] using hs.select_hosts fun _ => true

end Sound

end Store

end RouterBinding
