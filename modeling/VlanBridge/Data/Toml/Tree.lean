import VlanBridge.Data.Value
/-!
# The tables of a TOML text

A text fills a tree of tables. A header opens a table, once; the tables on its way come into being
by themselves and may still be opened later. A dotted key makes tables too, which only dotted keys
may fill further. A header in double brackets adds a table to a list. Nothing is ever replaced.
-/

namespace VlanBridge.Data.Toml

inductive TableKind where
  /-- On the way of a header. -/
  | passed
  /-- By its own header. -/
  | opened
  /-- By a dotted key. -/
  | dotted
  deriving DecidableEq

inductive Node where
  | leaf (value : Value)
  | table (kind : TableKind) (entries : List (String × Node))
  /-- A list of tables, of which the last is still being filled. -/
  | tables (before : List (List (String × Node))) (last : List (String × Node))

/-- The names of a table, in the order of the text. -/
abbrev Entries := List (String × Node)

namespace Entries

def find? (es : Entries) (name : String) : Option Node := List.lookup name es

/-- Lets a name stand for something, whether it was there or not. -/
def put (es : Entries) (name : String) (n : Node) : Entries :=
  if es.any (·.1 == name) then es.map fun e => if e.1 == name then (name, n) else e
  else es ++ [(name, n)]

/-- Adds a value under a dotted key. The key leads through tables that were not opened by headers of
their own. `mayEnd` says whether it may end in the table at hand: past its first part it has to end
in a table that dotted keys have made. -/
def addAt (v : Value) (mayEnd : Bool) : List String → Entries → Option Entries
  | [], _ => none
  | [name], es => if mayEnd ∧ (find? es name).isNone then some (es.put name (.leaf v)) else none
  | name :: rest, es =>
    match find? es name with
    | none => (addAt v true rest []).map fun inner => es.put name (.table .dotted inner)
    | some (.table .dotted inner) =>
      (addAt v true rest inner).map fun inner => es.put name (.table .dotted inner)
    | some (.table .passed inner) =>
      (addAt v false rest inner).map fun inner => es.put name (.table .passed inner)
    | some (.tables before last) =>
      (addAt v false rest last).map fun last => es.put name (.tables before last)
    | some (.table .opened _) => none
    | some (.leaf _) => none

/-- Adds a value under a dotted key that stands directly in a table. -/
def add (es : Entries) (v : Value) (name : List String) : Option Entries := addAt v true name es

/-- Opens a table by its header, or adds one to a list of tables. -/
def openTable (inList : Bool) : List String → Entries → Option Entries
  | [], _ => none
  | [name], es =>
    match inList, find? es name with
    | false, none => some (es.put name (.table .opened []))
    | false, some (.table .passed inner) => some (es.put name (.table .opened inner))
    | true, none => some (es.put name (.tables [] []))
    | true, some (.tables before last) => some (es.put name (.tables (before ++ [last]) []))
    | _, some _ => none
  | name :: rest, es =>
    match find? es name with
    | none => (openTable inList rest []).map fun inner => es.put name (.table .passed inner)
    | some (.table kind inner) =>
      (openTable inList rest inner).map fun inner => es.put name (.table kind inner)
    | some (.tables before last) =>
      (openTable inList rest last).map fun last => es.put name (.tables before last)
    | some (.leaf _) => none

/-- Adds a value under a dotted key inside the table of a header. -/
def addWithin (v : Value) (dottedKey : List String) : List String → Entries → Option Entries
  | [], es => es.add v dottedKey
  | name :: rest, es =>
    match find? es name with
    | some (.table kind inner) =>
      (addWithin v dottedKey rest inner).map fun inner => es.put name (.table kind inner)
    | some (.tables before last) =>
      (addWithin v dottedKey rest last).map fun last => es.put name (.tables before last)
    | _ => none

end Entries

mutual

def Node.toValue : Node → Value
  | .leaf v => v
  | .table _ es => .obj (entriesToFields es)
  | .tables before last => .arr (tablesToValues before ++ [.obj (entriesToFields last)])

/-- The names of a table with what they stand for, as data. -/
def entriesToFields : List (String × Node) → Fields
  | [] => []
  | (name, n) :: es => (name, n.toValue) :: entriesToFields es

def tablesToValues : List (List (String × Node)) → List Value
  | [] => []
  | es :: rest => .obj (entriesToFields es) :: tablesToValues rest

end

end VlanBridge.Data.Toml
