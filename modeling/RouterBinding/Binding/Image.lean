import RouterBinding.Binding.Store
import RouterBinding.Json.Reader
import RouterBinding.Json.Record

/-!
# The image of a binding store

Between sessions a store is kept as one JSON text that lists the keys and stored texts of both
tables. An empty text is the image of a fresh store.
-/

namespace RouterBinding.Store

open Json

/-- A table as an array of pairs. -/
def tableTree (t : Table String String) : Tree :=
  .array (t.rows.map fun row => .array [.text row.1, .text row.2])

/-- The key and the stored text of a pair. -/
def rowOfTree? : Tree → Option (String × String)
  | .array [key, text] => do some (← key.text?, ← text.text?)
  | _ => none

def tableOfTree? (tree : Tree) : Option (Table String String) :=
  (tree.list? rowOfTree?).map Table.ofRows

def image (s : Store) : String :=
  (Tree.record [("snat", tableTree s.snat), ("hosts", tableTree s.hosts)]).compact

/-- The store of an image; any other text is none. -/
def ofImage? (text : String) : Option Store :=
  if text = "" then some ∅
  else do
    let r ← (← Tree.parse? text).record? [⟨"snat", false⟩, ⟨"hosts", false⟩]
    some {
      snat := ← r.required? "snat" tableOfTree?
      hosts := ← r.required? "hosts" tableOfTree? }

end RouterBinding.Store
