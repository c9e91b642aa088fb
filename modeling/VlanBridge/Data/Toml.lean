import VlanBridge.Data.Toml.Number
import VlanBridge.Data.Toml.Tree
/-!
# TOML

A TOML text is a row of lines that hold a key with its value, the header of a table, or nothing.
Lists and inline tables go on over lines, and a comma may stand behind their last part. The text is
refused if a line is none of these or gives a name twice.
-/

namespace VlanBridge.Data.Toml

mutual

/-- Reads a value off the front, in which up to `depth` lists and inline tables may stand in each
other; `fuel` bounds how many steps are taken. -/
def readValue : (fuel depth : Nat) → List Char → Option (Value × List Char)
  | 0, _, _ => none
  | fuel + 1, depth, cs =>
    match cs with
    | [] => none
    | c :: rest =>
      if c = '[' ∨ c = '\x7b' then
        match depth with
        | 0 => none
        | depth + 1 =>
          if c = '[' then (readItems fuel depth rest).map fun (vs, rest) => (.arr vs, rest)
          else (readPairs fuel depth [] rest).map fun (es, rest) => (.obj (entriesToFields es), rest)
      else if c = '"' ∨ c = '\'' then (string? cs).map fun (s, rest) => (.str s, rest)
      else
        let (word, rest) := plainWord cs
        (plain? word).map (·, rest)

/-- Reads the items of a list up to its closing bracket. Lines may end anywhere between items. -/
def readItems : (fuel depth : Nat) → List Char → Option (List Value × List Char)
  | 0, _, _ => none
  | fuel + 1, depth, cs =>
    match skipLines cs.length cs with
    | none => none
    | some (']' :: rest) => some ([], rest)
    | some cs =>
      match readValue fuel depth cs with
      | none => none
      | some (v, rest) =>
        match skipLines rest.length rest with
        | some (',' :: rest) => (readItems fuel depth rest).map fun (vs, rest) => (v :: vs, rest)
        | some (']' :: rest) => some ([v], rest)
        | _ => none

/-- Reads the pairs of an inline table up to its closing brace into those that are there. Lines may
end anywhere but within a key. -/
def readPairs : (fuel depth : Nat) → Entries → List Char → Option (Entries × List Char)
  | 0, _, _, _ => none
  | fuel + 1, depth, es, cs =>
    match skipLines cs.length cs with
    | none => none
    | some ('\x7d' :: rest) => some (es, rest)
    | some cs =>
      match readAssignment fuel depth cs with
      | none => none
      | some (name, v, rest) =>
        match es.add v name, skipLines rest.length rest with
        | some es, some (',' :: rest) => readPairs fuel depth es rest
        | some es, some ('\x7d' :: rest) => some (es, rest)
        | _, _ => none

def readAssignment : (fuel depth : Nat) → List Char → Option (List String × Value × List Char)
  | 0, _, _ => none
  | fuel + 1, depth, cs =>
    match key cs with
    | none => none
    | some (name, rest) =>
      match skipLines rest.length rest with
      | some ('=' :: rest) =>
        match skipLines rest.length rest with
        | some rest => (readValue fuel depth rest).map fun (v, rest) => (name, v, rest)
        | none => none
      | _ => none

end

/-- What has been read: the tree, and the header under which values are added. -/
structure Document where
  entries : Entries := []
  header : List String := []

namespace Document

def readHeader (d : Document) (cs : List Char) : Option (Document × List Char) :=
  let (inList, cs) := match cs with
    | '[' :: rest => (true, rest)
    | _ => (false, cs)
  match key cs with
  | some (path, ']' :: rest) =>
    let rest := match inList, rest with
      | false, _ => some rest
      | true, ']' :: rest => some rest
      | true, _ => none
    match rest.bind endLine, d.entries.openTable inList path with
    | some rest, some entries => some ({ entries, header := path }, rest)
    | _, _ => none
  | _ => none

def readPair (d : Document) (cs : List Char) : Option (Document × List Char) :=
  match key cs with
  | some (name, '=' :: rest) =>
    match readValue (3 * cs.length + 3) maxDepth (skipBlanks rest) with
    | none => none
    | some (v, rest) =>
      match endLine rest, d.entries.addWithin v name d.header with
      | some rest, some entries => some ({ d with entries }, rest)
      | _, _ => none
  | _ => none

/-- Reads lines up to the end; `fuel` bounds how many. -/
def readLines : (fuel : Nat) → Document → List Char → Option Document
  | 0, _, _ => none
  | fuel + 1, d, cs =>
    match skipLines cs.length cs with
    | none => none
    | some [] => some d
    | some ('[' :: rest) =>
      match d.readHeader rest with
      | some (d, rest) => readLines fuel d rest
      | none => none
    | some cs =>
      match d.readPair cs with
      | some (d, rest) => readLines fuel d rest
      | none => none

end Document

def parse? (s : String) : Option Value :=
  let cs := match s.toList with
    | '\ufeff' :: rest => rest
    | cs => cs
  (Document.readLines (cs.length + 1) {} cs).map fun d => .obj (entriesToFields d.entries)

end VlanBridge.Data.Toml
