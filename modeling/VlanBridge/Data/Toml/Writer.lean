import VlanBridge.Data.Json
/-!
# Writing TOML

One line per field. A string is written between quotation marks if nothing but tabs in it has to be
marked out, or else between apostrophes if it holds none, or else in the form for several lines, and
with backslashes where no other form fits.
-/

namespace VlanBridge.Data.Toml

open VlanBridge.Text.Number

def longestRun (c : Char) : (here : Nat) → List Char → Nat
  | here, [] => here
  | here, d :: rest => if d = c then longestRun c (here + 1) rest else max here (longestRun c 0 rest)

/-- Whether a character can only be written with a backslash. -/
def needsEscape (c : Char) : Bool := (c.toNat < 32 && c != '\t' && c != '\n') || c.toNat == 127

/-- How a character is marked out between quotation marks, if it is. -/
def markedOut? (c : Char) : Option (List Char) :=
  match c with
  | '\\' => some ['\\', '\\']
  | '\x08' => some ['\\', 'b']
  | '\t' => some ['\\', 't']
  | '\x0c' => some ['\\', 'f']
  | '\r' => some ['\\', 'r']
  | c =>
    if needsEscape c then some ('\\' :: 'u' :: (padded 16 4 c.toNat).map Char.toUpper) else none

/-- What stands between quotation marks. Where `lines` says that lines may end there, a quotation
mark is marked out only behind two that are not; `run` counts these. -/
def escapeInside (lines : Bool) : (run : Nat) → List Char → List Char
  | _, [] => []
  | run, c :: cs =>
    if c = '"' then
      if lines ∧ run < 2 then c :: escapeInside lines (run + 1) cs
      else '\\' :: c :: escapeInside lines 0 cs
    else if c = '\n' then (if lines then [c] else ['\\', 'n']) ++ escapeInside lines 0 cs
    else (markedOut? c).getD [c] ++ escapeInside lines 0 cs

def quote (s : String) : String :=
  let cs := s.toList
  let escapes := cs.any needsEscape
  let backslash := cs.any (· == '\\')
  let lines := cs.any (· == '\n')
  let quotes := longestRun '"' 0 cs
  let apostrophes := longestRun '\'' 0 cs
  let onLines := fun (marks inside : String) =>
    marks ++ (if lines then "\n" else "") ++ inside ++ marks
  let escaped := fun (lines : Bool) => String.ofList (escapeInside lines 0 cs)
  if !escapes && !backslash && quotes == 0 && !lines then "\"" ++ escaped false ++ "\""
  else if !escapes && apostrophes == 0 && !lines then "'" ++ s ++ "'"
  else if !escapes && !backslash && quotes ≤ 2 then onLines "\"\"\"" (escaped true)
  else if !escapes && apostrophes ≤ 2 then onLines "'''" s
  else if lines then onLines "\"\"\"" (escaped true)
  else "\"" ++ escaped false ++ "\""

def writeScalar : Value → String
  | .bool b => if b then "true" else "false"
  | .int n => Json.integer n
  | .real text => text
  | .str s => quote s
  | .null | .unvalued | .arr _ | .obj _ => "\"\""

def writeFields (fs : Fields) : String :=
  String.join (fs.map fun (name, v) => name ++ " = " ++ writeScalar v ++ "\n")

def write (v : Value) : String :=
  match v with
  | .obj fs => writeFields fs
  | v => writeScalar v

end VlanBridge.Data.Toml
