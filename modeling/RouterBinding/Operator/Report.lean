import RouterBinding.Binding.Store

/-!
# Reports on the bindings

A report lists the bindings of one router or of all. It is shown as a table in columns, which
longer ids overrun, or as JSON.
-/

namespace RouterBinding

open Json

structure Report where
  snat : List SnatBinding
  hosts : List HostBinding
  deriving DecidableEq

namespace Report

/-- The bindings of a router, or all of them. -/
def collect (s : Store) : Option String → Except StoreError Report
  | some router => do return ⟨(← s.snatOf? router).toList, ← s.hostsOfRouter router⟩
  | none => do return ⟨← s.snatBindings, ← s.hostBindings⟩

/-- A text with blanks after it up to a number of characters. -/
def padded (width : Nat) (text : String) : String :=
  text ++ String.ofList (List.replicate (width - text.length) ' ')

/-- The width of a column of ids. -/
def idWidth : Nat := 38

/-- The width of a column of hosts. -/
def hostWidth : Nat := 20

def snatLine (b : SnatBinding) : String :=
  "  " ++ padded idWidth b.router ++ " " ++ padded idWidth b.agent ++ " " ++
    padded hostWidth b.host ++ " " ++ b.gatewayPort.getD "-" ++ "\n"

def hostLine (b : HostBinding) : String :=
  "  " ++ padded idWidth b.router ++ " " ++ b.agent ++ "\n"

/-- The heading of a list with the number of its rows. -/
def heading (title : String) (rows : Nat) : String := title ++ " (" ++ Nat.repr rows ++ ")\n"

def table (r : Report) : String :=
  heading "SNAT bindings" r.snat.length ++ String.join (r.snat.map snatLine) ++
    heading "Host bindings" r.hosts.length ++ String.join (r.hosts.map hostLine)

def toTree (r : Report) : Tree :=
  .record [("snat", .array (r.snat.map (·.toTree))), ("hosts", .array (r.hosts.map (·.toTree)))]

def json (r : Report) : String := r.toTree.pretty

end Report

end RouterBinding
