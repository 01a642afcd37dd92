import RouterBinding.Toml.Lexeme
import RouterBinding.Toml.Scalar
import RouterBinding.Toml.Section

/-!
# TOML documents

`parse?` reads a document: lines that give a key a value, and headers that open a section. Arrays
and inline tables nest below a limit. A `Draft` is a document of which some lines have been read;
the section of the last header is kept apart and filed when the next header comes.
-/

namespace RouterBinding.Toml

mutual

/-- A value inside `depth` arrays and inline tables; `fuel` bounds the calls. -/
def value? : (fuel depth : Nat) → List Char → Option (Value × List Char)
  | 0, _, _ => none
  | fuel + 1, depth, cs =>
    match cs with
    | '[' :: rest => do
      guard (depth + 1 < nestingLimit)
      let rest ← skipLines? false rest
      match rest with
      | ']' :: rest => some (.array [], rest)
      | _ => do
        let (items, rest) ← items? fuel (depth + 1) rest
        some (.array items, rest)
    | '{' :: rest => do
      guard (depth + 1 < nestingLimit)
      match skipBlanks rest with
      | '}' :: rest => some (.table [], rest)
      | _ => do
        let (s, rest) ← inline? fuel (depth + 1) .empty rest
        some (.table s.members, rest)
    | 't' :: 'r' :: 'u' :: 'e' :: rest => some (.boolean true, rest)
    | 'f' :: 'a' :: 'l' :: 's' :: 'e' :: rest => some (.boolean false, rest)
    | '"' :: _ => do
      let (text, rest) ← string? cs
      some (.string (String.ofList text), rest)
    | '\'' :: _ => do
      let (text, rest) ← string? cs
      some (.string (String.ofList text), rest)
    | _ => scalar? cs

/-- The items of an array from one of them on, with the closing bracket; a comma may stand after
the last one. -/
def items? : (fuel depth : Nat) → List Char → Option (List Value × List Char)
  | 0, _, _ => none
  | fuel + 1, depth, cs => do
    let (item, rest) ← value? fuel depth cs
    match ← skipLines? false rest with
    | ']' :: rest => some ([item], rest)
    | ',' :: rest =>
      match ← skipLines? false rest with
      | ']' :: rest => some ([item], rest)
      | rest =>
        let (items, rest) ← items? fuel depth rest
        some (item :: items, rest)
    | _ => none

/-- The members of an inline table from one of them on, with the closing brace, added to those
before them. -/
def inline? : (fuel depth : Nat) → Section → List Char → Option (Section × List Char)
  | 0, _, _, _ => none
  | fuel + 1, depth, s, cs => do
    let (path, rest) ← key? cs
    match rest with
    | '=' :: rest =>
      let (v, rest) ← value? fuel depth (skipBlanks rest)
      let s ← s.addAt path.dropLast (path.getLast?.getD "") v
      match skipBlanks rest with
      | '}' :: rest => some (s, rest)
      | ',' :: rest => inline? fuel depth s rest
      | _ => none
    | _ => none

end

/-- A document that has been read in part. -/
structure Draft where
  /-- All sections but the open one. -/
  root : Section
  /-- The path of the last header, empty before the first one. -/
  path : List String
  /-- The last header opened a further section of a list. -/
  inList : Bool
  /-- The section of the last header. -/
  current : Section

namespace Draft

def start : Draft := ⟨.empty, [], false, .empty⟩

/-- Adds a section to the list under a name. -/
def append (name : String) (current s : Section) : Option Section :=
  match s.get? name with
  | none => some (s.put name (.list [current]))
  | some (.list ts) => some (s.put name (.list (ts ++ [current])))
  | some _ => none

/-- Files a section under a name that at most a longer path has named. -/
def file (name : String) (current s : Section) : Option Section :=
  match s.get? name with
  | none => some (s.put name (.single current))
  | some (.single t) => if t.implied then some (s.put name (.single current)) else none
  | some _ => none

/-- The document with the open section filed. -/
def close? (d : Draft) : Option Section :=
  match d.path.getLast? with
  | none => some d.current
  | some name =>
    d.root.edit false (if d.inList then append name d.current else file name d.current)
      d.path.dropLast

/-- Gives a dotted key a value in the open section. -/
def assign? (d : Draft) (path : List String) (v : Value) : Option Draft :=
  (d.current.addAt path.dropLast (path.getLast?.getD "") v).map fun s => { d with current := s }

/-- Whether a header may name a section that is there. -/
def mayOpen (name : String) (s : Section) : Bool :=
  match s.get? name with
  | none => true
  | some (.single t) => t.implied && !t.dotted
  | some _ => false

/-- What a longer path has put into a section before its header came. -/
def opened (name : String) (s : Section) : Section :=
  match s.get? name with
  | some (.single t) => t.named
  | _ => .empty

/-- The section at the end of a path, if there is one. -/
def find? : List String → Section → Option Section
  | [], s => some s
  | name :: path, s =>
    match s.get? name with
    | some (.single t) => find? path t
    | some (.list ts) => ts.getLast?.bind (find? path)
    | _ => none

/-- Opens the section that a header names. -/
def open? (d : Draft) (path : List String) : Option Draft := do
  let root ← d.close?
  let name ← path.getLast?
  let parents := path.dropLast
  let root ← root.edit false (fun s => if mayOpen name s then some s else none) parents
  let current := ((find? parents root).map (opened name)).getD .empty
  let root ← root.edit false (fun s => some (s.drop name)) parents
  some ⟨root, path, false, current⟩

/-- Opens a further section of the list that a header names. -/
def openListed? (d : Draft) (path : List String) : Option Draft := do
  let root ← d.close?
  let name ← path.getLast?
  let root ← root.edit false (fun s =>
    match s.get? name with
    | none => some s
    | some (.list _) => some s
    | some _ => none) path.dropLast
  some ⟨root, path, true, .empty⟩

end Draft

/-- A header between brackets, with the rest of its line. -/
def header? (d : Draft) : List Char → Option (Draft × List Char)
  | '[' :: rest => do
    let (path, rest) ← key? rest
    match rest with
    | ']' :: ']' :: rest => some (← d.openListed? path, ← lineEnd? rest)
    | _ => none
  | rest => do
    let (path, rest) ← key? rest
    match rest with
    | ']' :: rest => some (← d.open? path, ← lineEnd? rest)
    | _ => none

/-- A key with its value, and the rest of the line. -/
def assignment? (d : Draft) (cs : List Char) : Option (Draft × List Char) := do
  let (path, rest) ← key? cs
  match rest with
  | '=' :: rest =>
    let (v, rest) ← value? (2 * rest.length + 1) 0 (skipBlanks rest)
    let rest ← lineEnd? rest
    some (← d.assign? path v, rest)
  | _ => none

/-- Reads line after line; `fuel` bounds their number. -/
def lines? : (fuel : Nat) → Draft → List Char → Option Draft
  | 0, _, _ => none
  | fuel + 1, d, cs =>
    match skipBlanks cs with
    | [] => some d
    | '[' :: rest => do
      let (d, rest) ← header? d rest
      lines? fuel d rest
    | '#' :: rest => do lines? fuel d (← lineEnd? ('#' :: rest))
    | cs =>
      match newline? cs with
      | some rest => lines? fuel d rest
      | none => do
        let (d, rest) ← assignment? d cs
        lines? fuel d rest

/-- A mark of the byte order may stand in front of a document. -/
def skipMark : List Char → List Char
  | '\ufeff' :: rest => rest
  | cs => cs

/-- The members of a document. -/
def parse? (text : String) : Option (List (String × Value)) := do
  let cs := skipMark text.toList
  let draft ← lines? (cs.length + 1) .start cs
  some (← draft.close?).members

end RouterBinding.Toml
