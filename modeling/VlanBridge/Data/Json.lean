import VlanBridge.Data.Value
import VlanBridge.Text.Number
/-!
# JSON

Reading and writing JSON text. Of several fields with one name the last counts. A number with a
fraction or an exponent, minus zero, and a number outside the signed or unsigned 64-bit range are
kept as they are written.
-/

namespace VlanBridge.Data.Json

open VlanBridge.Text.Number

/-! ### Reading -/

def skipBlanks (cs : List Char) : List Char :=
  cs.dropWhile fun c => c == ' ' || c == '\t' || c == '\n' || c == '\r'

/-- What follows a word at the front, if the word stands there. -/
def word? (word : String) (cs : List Char) : Option (List Char) :=
  if cs.take word.length = word.toList then some (cs.drop word.length) else none

def fourDigits? (a b c d : Char) : Option Nat := readDigits 16 0 [a, b, c, d]

/-- The characters that stand for themselves behind a backslash, or for a control character. -/
def escaped? : Char → Option Char
  | '"' => some '"'
  | '\\' => some '\\'
  | '/' => some '/'
  | 'b' => some '\x08'
  | 'f' => some '\x0c'
  | 'n' => some '\n'
  | 'r' => some '\r'
  | 't' => some '\t'
  | _ => none

/-- Reads the inside of a string up to its closing quote; gives numbers of characters, of which two
halves may stand for one character. -/
def readUnits : List Char → Option (List Nat × List Char)
  | [] => none
  | '"' :: rest => some ([], rest)
  | '\\' :: 'u' :: a :: b :: c :: d :: rest =>
    match fourDigits? a b c d, readUnits rest with
    | some unit, some (units, rest) => some (unit :: units, rest)
    | _, _ => none
  | '\\' :: c :: rest =>
    match escaped? c, readUnits rest with
    | some c, some (units, rest) => some (c.toNat :: units, rest)
    | _, _ => none
  | c :: rest =>
    if c.toNat < 32 then none
    else match readUnits rest with
      | some (units, rest) => some (c.toNat :: units, rest)
      | none => none

/-- Puts the halves of characters together; a half alone is an error. -/
def joinHalves : List Nat → Option (List Char)
  | [] => some []
  | [n] => if 0xd800 ≤ n ∧ n < 0xe000 then none else some [Char.ofNat n]
  | n :: m :: rest =>
    if 0xd800 ≤ n ∧ n < 0xdc00 then
      if 0xdc00 ≤ m ∧ m < 0xe000 then
        (joinHalves rest).map
          (Char.ofNat (0x10000 + (n - 0xd800) * 0x400 + (m - 0xdc00)) :: ·)
      else none
    else if 0xdc00 ≤ n ∧ n < 0xe000 then none
    else (joinHalves (m :: rest)).map (Char.ofNat n :: ·)

def readString (cs : List Char) : Option (String × List Char) :=
  match readUnits cs with
  | some (units, rest) => (joinHalves units).map fun chars => (String.ofList chars, rest)
  | none => none

/-- Whether a row of characters is a number without a sign, a fraction and an exponent. -/
def isWhole (cs : List Char) : Bool :=
  match cs with
  | [] => false
  | ['0'] => true
  | c :: rest => '1' ≤ c && c ≤ '9' && rest.all Char.isDigit

/-- Whether a row of characters is a fraction with or without an exponent, or an exponent. -/
def isTail (cs : List Char) : Bool :=
  let (fraction, cs) := match cs with
    | '.' :: rest => (some (rest.takeWhile Char.isDigit), rest.dropWhile Char.isDigit)
    | _ => (none, cs)
  let exponent := match cs with
    | [] => true
    | c :: rest =>
      (c == 'e' || c == 'E') &&
        let digits := match rest with
          | '+' :: digits => digits
          | '-' :: digits => digits
          | _ => rest
        !digits.isEmpty && digits.all Char.isDigit
  fraction != some [] && exponent

def number? (cs : List Char) : Option Value :=
  let (negative, body) := match cs with
    | '-' :: rest => (true, rest)
    | _ => (false, cs)
  let whole := body.takeWhile Char.isDigit
  let tail := body.dropWhile Char.isDigit
  if !isWhole whole || !isTail tail then none
  else match parse? 10 whole with
    | some n =>
      let isInt := tail.isEmpty && if negative then 0 < n && n ≤ UInt64.size / 2 else n < UInt64.size
      if isInt then some (.int (if negative then -(n : Int) else n))
      else some (.real (String.ofList cs))
    | none => none

def isNumberChar (c : Char) : Bool :=
  c.isDigit || c == '-' || c == '+' || c == '.' || c == 'e' || c == 'E'

def readNumber (cs : List Char) : Option (Value × List Char) :=
  (number? (cs.takeWhile isNumberChar)).map (·, cs.dropWhile isNumberChar)

/-- Adds a field in front of those that follow it, unless one of them has its name. -/
def addField (name : String) (v : Value) (fs : Fields) : Fields :=
  if fs.any (·.1 == name) then fs else (name, v) :: fs

mutual

/-- Reads a value off the front; `fuel` bounds how many steps are taken. -/
def readValue : (fuel : Nat) → List Char → Option (Value × List Char)
  | 0, _ => none
  | fuel + 1, cs =>
    match skipBlanks cs with
    | '"' :: rest => (readString rest).map fun (s, rest) => (.str s, rest)
    | '[' :: rest =>
      match skipBlanks rest with
      | ']' :: rest => some (.arr [], rest)
      | rest => (readItems fuel rest).map fun (vs, rest) => (.arr vs, rest)
    | '\x7b' :: rest =>
      match skipBlanks rest with
      | '\x7d' :: rest => some (.obj [], rest)
      | rest => (readFields fuel rest).map fun (fs, rest) => (.obj fs, rest)
    | 't' :: rest => (word? "rue" rest).map (.bool true, ·)
    | 'f' :: rest => (word? "alse" rest).map (.bool false, ·)
    | 'n' :: rest => (word? "ull" rest).map (.null, ·)
    | cs => readNumber cs

/-- Reads values between commas, and the closing bracket. -/
def readItems : (fuel : Nat) → List Char → Option (List Value × List Char)
  | 0, _ => none
  | fuel + 1, cs =>
    match readValue fuel cs with
    | none => none
    | some (v, rest) =>
      match skipBlanks rest with
      | ',' :: rest => (readItems fuel rest).map fun (vs, rest) => (v :: vs, rest)
      | ']' :: rest => some ([v], rest)
      | _ => none

/-- Reads named values between commas, and the closing brace. -/
def readFields : (fuel : Nat) → List Char → Option (Fields × List Char)
  | 0, _ => none
  | fuel + 1, cs =>
    match skipBlanks cs with
    | '"' :: rest =>
      match readString rest with
      | none => none
      | some (name, rest) =>
        match skipBlanks rest with
        | ':' :: rest =>
          match readValue fuel rest with
          | none => none
          | some (v, rest) =>
            match skipBlanks rest with
            | ',' :: rest =>
              (readFields fuel rest).map fun (fs, rest) => (addField name v fs, rest)
            | '\x7d' :: rest => some ([(name, v)], rest)
            | _ => none
        | _ => none
    | _ => none

end

def parse? (s : String) : Option Value :=
  let cs := s.toList
  match readValue (2 * cs.length + 2) cs with
  | some (v, rest) => if (skipBlanks rest).isEmpty then some v else none
  | none => none

/-! ### Writing -/

def quoteChar (c : Char) : List Char :=
  match c with
  | '"' => ['\\', '"']
  | '\\' => ['\\', '\\']
  | '\n' => ['\\', 'n']
  | '\r' => ['\\', 'r']
  | '\t' => ['\\', 't']
  | '\x08' => ['\\', 'b']
  | '\x0c' => ['\\', 'f']
  | c => if c.toNat < 32 then '\\' :: 'u' :: padded 16 4 c.toNat else [c]

def quote (s : String) : String := "\"" ++ String.ofList (s.toList.flatMap quoteChar) ++ "\""

def integer : Int → String
  | .ofNat n => decimal n
  | .negSucc n => "-" ++ decimal (n + 1)

/-- How the parts of a list or record are set apart. -/
structure Layout where
  /-- The start of a line at a depth, or nothing. -/
  line : (depth : Nat) → String
  /-- What stands behind the name of a field. -/
  colon : String

def compactLayout : Layout := ⟨fun _ => "", ":"⟩

/-- A line for each part, two blanks deeper at each level. -/
def prettyLayout : Layout :=
  ⟨fun depth => "\n" ++ String.ofList (List.replicate (2 * depth) ' '), ": "⟩

mutual

def write (lay : Layout) (depth : Nat) : Value → String
  | .null => "null"
  | .bool b => if b then "true" else "false"
  | .int n => integer n
  | .real text => text
  | .unvalued => "null"
  | .str s => quote s
  | .arr [] => "[]"
  | .arr (v :: vs) =>
    "[" ++ lay.line (depth + 1) ++ write lay (depth + 1) v ++ writeItems lay (depth + 1) vs
      ++ lay.line depth ++ "]"
  | .obj [] => "\x7b\x7d"
  | .obj ((name, v) :: fs) =>
    "\x7b" ++ lay.line (depth + 1) ++ quote name ++ lay.colon ++ write lay (depth + 1) v
      ++ writeFields lay (depth + 1) fs ++ lay.line depth ++ "\x7d"

def writeItems (lay : Layout) (depth : Nat) : List Value → String
  | [] => ""
  | v :: vs => "," ++ lay.line depth ++ write lay depth v ++ writeItems lay depth vs

def writeFields (lay : Layout) (depth : Nat) : List (String × Value) → String
  | [] => ""
  | (name, v) :: fs =>
    "," ++ lay.line depth ++ quote name ++ lay.colon ++ write lay depth v
      ++ writeFields lay depth fs

end

def compact (v : Value) : String := write compactLayout 0 v

/-- The text of a value with a line for each part. -/
def pretty (v : Value) : String := write prettyLayout 0 v

end VlanBridge.Data.Json
