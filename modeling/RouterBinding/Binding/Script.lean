import RouterBinding.Binding.Store

/-!
# Transactions of store operations

A `TransactionBody` is a transaction as its caller writes it: what is done next may depend on the
answer of each operation, a failure included, and the result at its end decides whether it is
committed. A script is a body that does one operation after another up to the first that fails.
`Script.run` answers those that succeeded and says how the script ended.
-/

namespace RouterBinding

/-- One operation of a transaction. -/
inductive StoreOperation where
  | getSnat (router : String)
  | insertSnat (binding : SnatBinding)
  | deleteSnat (router : String) (scope : Option String)
  | hasHost (router agent : String)
  | insertHost (router agent : String)
  | deleteHost (router agent : String)
  | deleteAgent (agent : String)
  | abort

/-- The answer of an operation. -/
inductive StoreAnswer where
  | done
  | snat (binding : Option SnatBinding)
  | flag (value : Bool)
  | counts (snat hosts : Nat)
  deriving DecidableEq

/-- Why a script did not commit. -/
inductive ScriptFailure where
  | store (error : StoreError)
  | aborted
  deriving DecidableEq

namespace StoreOperation

def run : StoreOperation → Transaction ScriptFailure StoreAnswer
  | .getSnat router => do
    return .snat (← (Transaction.query (·.snatOf? router)).mapError .store)
  | .insertSnat b => do
    (Transaction.insertSnat b).mapError .store
    return .done
  | .deleteSnat router scope => do
    return .snat (← (Transaction.deleteSnat router scope).mapError .store)
  | .hasHost router agent => do
    return .flag (← (Transaction.query (·.hasHost router agent)).mapError .store)
  | .insertHost router agent => do
    return .flag (← (Transaction.insertHost ⟨router, agent⟩).mapError .store)
  | .deleteHost router agent => do
    return .flag (← (Transaction.deleteHost ⟨router, agent⟩).mapError .store)
  | .deleteAgent agent => do
    let (snat, hosts) ← (Transaction.deleteAgent agent).mapError .store
    return .counts snat hosts
  | .abort => throw .aborted

end StoreOperation

/-- A transaction inside another one, which is told how it ended. One that failed changes
nothing. -/
def Transaction.attempt {ε ε' α : Type} (t : Transaction ε α) : Transaction ε' (Except ε α) :=
  fun s => .ok (s.commit t)

/-- A transaction as its caller writes it: each answer decides what is done next, and the result
decides between commit and abort. -/
inductive TransactionBody (ε α : Type) where
  | finish (result : Except ε α)
  | perform (op : StoreOperation) (next : Except ScriptFailure StoreAnswer → TransactionBody ε α)

/-- The change of the store that a body stands for. -/
def TransactionBody.transaction {ε α : Type} : TransactionBody ε α → Transaction ε α
  | finish result => MonadExcept.ofExcept result
  | perform op next => do
    let answer ← Transaction.attempt op.run
    (next answer).transaction

namespace TransactionBody

variable {ε α : Type}

theorem finish_apply (result : Except ε α) (s : Store) :
    (finish result).transaction s = result.map fun a => (a, s) := by
  cases result <;> rfl

theorem perform_apply (op : StoreOperation)
    (next : Except ScriptFailure StoreAnswer → TransactionBody ε α) (s : Store) :
    (perform op next).transaction s =
      (next (s.commit op.run).1).transaction (s.commit op.run).2 := rfl

end TransactionBody

/-- What a script did: the answers up to its end, and the failure that ended it. -/
structure ScriptReport where
  answers : List StoreAnswer
  failure : Option ScriptFailure
  deriving DecidableEq

namespace Script

/-- Does the operations one after another up to the first that fails, after some that were
answered. -/
def body (answers : List StoreAnswer) :
    List StoreOperation → TransactionBody ScriptReport ScriptReport
  | [] => .finish (.ok ⟨answers, none⟩)
  | op :: ops => .perform op fun
    | .ok answer => body (answers ++ [answer]) ops
    | .error e => .finish (.error ⟨answers, some e⟩)

/-- Runs a script as one transaction. -/
def run (ops : List StoreOperation) (s : Store) : ScriptReport × Store :=
  match s.commit (body [] ops).transaction with
  | (.ok report, s) => (report, s)
  | (.error report, s) => (report, s)

end Script

end RouterBinding
