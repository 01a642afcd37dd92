import RouterBinding.Binding.Error
import RouterBinding.Binding.Row
import RouterBinding.Ordered.Table

/-!
# The binding store

A `Store` is two tables of stored texts. A query reads them and fails where a row that it looks at
does not decode; listing a table looks at all its rows. A `Transaction` is a change of the store
that either yields an answer and the changed store or fails and leaves no store at all, so that
`Store.commit`, which keeps the store where a transaction fails, makes it one unit:
`commit_of_error` and `commit_of_ok` are its two laws. The laws named `apply` say what a transaction
makes of a store.
-/

namespace RouterBinding

structure Store where
  /-- SNAT bindings by router id. -/
  snat : Table String String
  /-- Host bindings by `HostBinding.key`. -/
  hosts : Table String String
  deriving DecidableEq

namespace Store

instance : EmptyCollection Store := ⟨⟨∅, ∅⟩⟩

variable {α : Type}

/-- The binding of a stored text. -/
def decoded (ofText? : String → Option α) (text : String) : Except StoreError α :=
  match ofText? text with
  | some a => .ok a
  | none => .error .undecodable

/-- The binding under a key. -/
def row? (ofText? : String → Option α) (table : Table String String) (key : String) :
    Except StoreError (Option α) :=
  match table.get? key with
  | some text => (decoded ofText? text).map some
  | none => .ok none

/-- The keys and bindings of all rows, in key order. -/
def scan (ofText? : String → Option α) (table : Table String String) :
    Except StoreError (List (String × α)) :=
  table.rows.mapM fun row => (decoded ofText? row.2).map fun a => (row.1, a)

/-- The bindings of all rows that have a property, in key order. -/
def select (ofText? : String → Option α) (table : Table String String) (keep : α → Bool) :
    Except StoreError (List α) :=
  (scan ofText? table).map fun rows => (rows.map Prod.snd).filter keep

/-- The SNAT binding of a router. -/
def snatOf? (s : Store) (router : String) : Except StoreError (Option SnatBinding) :=
  row? SnatBinding.ofText? s.snat router

/-- The SNAT bindings of some routers, in their order; routers without one are passed over. -/
def snatsOf (s : Store) (routers : List String) : Except StoreError (List SnatBinding) :=
  (routers.mapM s.snatOf?).map fun found => found.filterMap id

/-- All SNAT bindings by router id. -/
def snatBindings (s : Store) : Except StoreError (List SnatBinding) :=
  select SnatBinding.ofText? s.snat fun _ => true

/-- Whether a router is bound to an agent. -/
def hasHost (s : Store) (router agent : String) : Except StoreError Bool :=
  (row? HostBinding.ofText? s.hosts (HostBinding.key ⟨router, agent⟩)).map Option.isSome

/-- All host bindings by key. -/
def hostBindings (s : Store) : Except StoreError (List HostBinding) :=
  select HostBinding.ofText? s.hosts fun _ => true

/-- The host bindings of a router. -/
def hostsOfRouter (s : Store) (router : String) : Except StoreError (List HostBinding) :=
  select HostBinding.ofText? s.hosts fun b => b.router = router

/-- The host bindings of an agent. -/
def hostsOfAgent (s : Store) (agent : String) : Except StoreError (List HostBinding) :=
  select HostBinding.ofText? s.hosts fun b => b.agent = agent

end Store

/-- A change of the store with an answer; it fails as a whole. -/
abbrev Transaction (ε α : Type) := StateT Store (Except ε) α

namespace Transaction

variable {ε α : Type}

/-- A query inside a transaction sees the changes made before it. -/
def query (f : Store → Except ε α) : Transaction ε α := fun s => (f s).map fun a => (a, s)

/-- The same change with another type of errors. -/
def mapError {ε' : Type} (f : ε → ε') (t : Transaction ε α) : Transaction ε' α := fun s =>
  (t s).mapError f

/-- Adds a SNAT binding; a row that is there under its key stands against it, whatever it holds. -/
def insertSnat (b : SnatBinding) : Transaction StoreError Unit := do
  let s ← get
  if s.snat.contains b.key then throw (.duplicateSnat b.key)
  set { s with snat := s.snat.insert b.key b.toText }

/-- Drops the SNAT binding of a router and returns it; with a scope, only if it names that agent. -/
def deleteSnat (router : String) (scope : Option String) :
    Transaction StoreError (Option SnatBinding) := do
  match ← query (·.snatOf? router) with
  | none => return none
  | some b =>
    if scope.any (· ≠ b.agent) then return none
    modify fun s => { s with snat := s.snat.erase router }
    return some b

/-- Binds a router to an agent, and says whether it was not bound before. -/
def insertHost (b : HostBinding) : Transaction StoreError Bool := do
  let s ← get
  if s.hosts.contains b.key then return false
  set { s with hosts := s.hosts.insert b.key b.toText }
  return true

/-- Unbinds a router from an agent, and says whether it was bound before. -/
def deleteHost (b : HostBinding) : Transaction StoreError Bool := do
  let s ← get
  set { s with hosts := s.hosts.erase b.key }
  return s.hosts.contains b.key

/-- The keys of the rows that have a property. -/
def keysWhere {α : Type} (ofText? : String → Option α) (table : Table String String)
    (keep : α → Bool) : Except StoreError (List String) :=
  (Store.scan ofText? table).map fun rows => (rows.filter fun row => keep row.2).map Prod.fst

/-- Drops every binding of an agent: the numbers of SNAT and of host bindings dropped. -/
def deleteAgent (agent : String) : Transaction StoreError (Nat × Nat) := do
  let snat ← query fun s => keysWhere SnatBinding.ofText? s.snat fun b => b.agent = agent
  let hosts ← query fun s => keysWhere HostBinding.ofText? s.hosts fun b => b.agent = agent
  modify fun s => ⟨snat.foldl Table.erase s.snat, hosts.foldl Table.erase s.hosts⟩
  return (snat.length, hosts.length)

/-- The second of two transactions sees what the first one made, unless that failed. -/
theorem bind_apply {β : Type} (t : Transaction ε α) (f : α → Transaction ε β) (s : Store) :
    (t >>= f) s =
      match t s with
      | .ok (a, s') => f a s'
      | .error e => .error e := by
  show Except.bind (t s) _ = _
  cases t s <;> rfl

theorem query_apply (f : Store → Except ε α) (s : Store) :
    query f s = (f s).map fun a => (a, s) := rfl

theorem map_error_apply {ε' : Type} (f : ε → ε') (t : Transaction ε α) (s : Store) :
    t.mapError f s = (t s).mapError f := rfl

theorem insert_snat_apply (b : SnatBinding) (s : Store) :
    insertSnat b s =
      if s.snat.contains b.key then .error (.duplicateSnat b.key)
      else .ok ((), { s with snat := s.snat.insert b.key b.toText }) := by
  rw [insertSnat, bind_apply]
  show (if s.snat.contains b.key then _ else _ : Transaction StoreError Unit) s = _
  split <;> rfl

theorem delete_snat_apply (router : String) (scope : Option String) (s : Store) :
    deleteSnat router scope s =
      match s.snatOf? router with
      | .ok (some b) =>
        if scope.any (· ≠ b.agent) then .ok (none, s)
        else .ok (some b, { s with snat := s.snat.erase router })
      | .ok none => .ok (none, s)
      | .error e => .error e := by
  rw [deleteSnat, bind_apply, query_apply]
  rcases s.snatOf? router with e | _ | b
  · rfl
  · rfl
  · by_cases h : scope.any (· ≠ b.agent)
    · simp only [Except.map, h]
      rfl
    · simp only [Except.map, h]
      rfl

theorem insert_host_apply (b : HostBinding) (s : Store) :
    insertHost b s =
      if s.hosts.contains b.key then .ok (false, s)
      else .ok (true, { s with hosts := s.hosts.insert b.key b.toText }) := by
  rw [insertHost, bind_apply]
  show (if s.hosts.contains b.key then _ else _ : Transaction StoreError Bool) s = _
  split <;> rfl

theorem delete_host_apply (b : HostBinding) (s : Store) :
    deleteHost b s = .ok (s.hosts.contains b.key, { s with hosts := s.hosts.erase b.key }) := rfl

end Transaction

namespace Store

variable {ε α : Type}

/-- Runs a transaction as one unit: a failing one changes nothing. -/
def commit (s : Store) (t : Transaction ε α) : Except ε α × Store :=
  match t s with
  | .ok (a, s') => (.ok a, s')
  | .error e => (.error e, s)

theorem commit_of_ok {s s' : Store} {t : Transaction ε α} {a : α} (h : t s = .ok (a, s')) :
    s.commit t = (.ok a, s') := by
  simp [commit, h]

theorem commit_of_error {s : Store} {t : Transaction ε α} {e : ε} (h : t s = .error e) :
    s.commit t = (.error e, s) := by
  simp [commit, h]

end Store

end RouterBinding
