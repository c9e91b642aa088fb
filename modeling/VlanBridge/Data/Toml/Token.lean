import VlanBridge.Data.Value
import VlanBridge.Text.Number
import VlanBridge.Text.Split
/-!
# The smallest parts of a TOML text

Blanks, line ends, comments, strings and keys. The text is read as a row of characters; each reader
gives what follows the part that it has read. A carriage return stands only before a line feed.
-/

namespace VlanBridge.Data.Toml

open VlanBridge.Text VlanBridge.Text.Number

/-! ### Blanks and comments -/

def skipBlanks (cs : List Char) : List Char := cs.dropWhile fun c => c == ' ' || c == '\t'

/-- What follows the line end at the front, if there is one. -/
def lineEnd? : List Char → Option (List Char)
  | '\n' :: rest => some rest
  | '\r' :: '\n' :: rest => some rest
  | _ => none

/-- Whether a character may not stand in comments and strings. -/
def isControl (c : Char) : Bool := (c.toNat < 32 && c != '\t') || c.toNat == 127

/-- Leaves out a comment if one begins here; it reaches up to the end of the line. -/
def skipComment (cs : List Char) : Option (List Char) :=
  match cs with
  | '#' :: rest =>
    let inLine := fun c => c != '\n' && c != '\r'
    if (rest.takeWhile inLine).any isControl then none else some (rest.dropWhile inLine)
  | _ => some cs

/-- Leaves out what is left of a line, which must hold nothing more than a comment. -/
def endLine (cs : List Char) : Option (List Char) :=
  match skipComment (skipBlanks cs) with
  | none => none
  | some [] => some []
  | some rest => lineEnd? rest

/-- Leaves out blanks, comments and line ends; `fuel` bounds how many lines. -/
def skipLines : (fuel : Nat) → List Char → Option (List Char)
  | 0, cs => some cs
  | fuel + 1, cs =>
    match skipComment (skipBlanks cs) with
    | none => none
    | some rest =>
      match lineEnd? rest with
      | some rest => skipLines fuel rest
      | none => some rest

/-! ### Strings -/

/-- The character that hexadecimal digits stand for. -/
def codePoint? (ds : List Char) : Option Char :=
  match parse? 16 ds with
  | some n => if n.isValidChar then some (Char.ofNat n) else none
  | none => none

def escape? : List Char → Option (Char × List Char)
  | 'b' :: rest => some ('\x08', rest)
  | 't' :: rest => some ('\t', rest)
  | 'n' :: rest => some ('\n', rest)
  | 'f' :: rest => some ('\x0c', rest)
  | 'r' :: rest => some ('\r', rest)
  | 'e' :: rest => some ('\x1b', rest)
  | '"' :: rest => some ('"', rest)
  | '\\' :: rest => some ('\\', rest)
  | 'x' :: rest => (codePoint? (rest.take 2)).map (·, rest.drop 2)
  | 'u' :: rest => (codePoint? (rest.take 4)).map (·, rest.drop 4)
  | 'U' :: rest => (codePoint? (rest.take 8)).map (·, rest.drop 8)
  | _ => none

/-- Puts a character in front of what a reader has read. -/
def prepend (c : Char) : Option (List Char × List Char) → Option (List Char × List Char)
  | some (cs, rest) => some (c :: cs, rest)
  | none => none

/-- Reads a string up to its closing quotation mark. -/
def basic : (fuel : Nat) → List Char → Option (List Char × List Char)
  | 0, _ => none
  | _, [] => none
  | _ + 1, '"' :: rest => some ([], rest)
  | fuel + 1, '\\' :: rest =>
    match escape? rest with
    | some (c, rest) => prepend c (basic fuel rest)
    | none => none
  | fuel + 1, c :: rest => if isControl c then none else prepend c (basic fuel rest)

/-- Reads a literal string up to its closing apostrophe. -/
def literal (cs : List Char) : Option (List Char × List Char) :=
  let inside := cs.takeWhile (· != '\'')
  match cs.dropWhile (· != '\'') with
  | '\'' :: rest => if inside.any isControl then none else some (inside, rest)
  | _ => none

/-- Whether a backslash at the end of a line stands before these characters. -/
def isLineContinuation (cs : List Char) : Bool := (lineEnd? (skipBlanks cs)).isSome

def skipSpace : List Char → List Char
  | ' ' :: rest => skipSpace rest
  | '\t' :: rest => skipSpace rest
  | '\n' :: rest => skipSpace rest
  | '\r' :: '\n' :: rest => skipSpace rest
  | cs => cs

/-- How many closing marks stand at the front, five at most: up to two belong to the string. -/
def closingMarks (mark : Char) (cs : List Char) : Nat := ((cs.take 5).takeWhile (· == mark)).length

/-- Reads a string of several lines up to three closing marks; `escapes` says whether a backslash
means something in it. Line ends belong to the string as they are written. -/
def multiline (mark : Char) (escapes : Bool) : (fuel : Nat) → List Char →
    Option (List Char × List Char)
  | 0, _ => none
  | _, [] => none
  | fuel + 1, c :: rest =>
    if c = mark ∧ 3 ≤ closingMarks mark (c :: rest) then
      let marks := closingMarks mark (c :: rest)
      some (List.replicate (marks - 3) mark, (c :: rest).drop marks)
    else if escapes ∧ c = '\\' then
      if isLineContinuation rest then multiline mark escapes fuel (skipSpace rest)
      else match escape? rest with
        | some (e, rest) => prepend e (multiline mark escapes fuel rest)
        | none => none
    else if isControl c ∧ lineEnd? (c :: rest) = none then none
    else prepend c (multiline mark escapes fuel rest)

/-- Leaves out a line end that stands right behind the opening marks. -/
def dropFirstLineEnd (cs : List Char) : List Char := (lineEnd? cs).getD cs

def string? (cs : List Char) : Option (String × List Char) :=
  let read := match cs with
    | '"' :: '"' :: '"' :: rest => multiline '"' true (rest.length + 1) (dropFirstLineEnd rest)
    | '\'' :: '\'' :: '\'' :: rest => multiline '\'' false (rest.length + 1) (dropFirstLineEnd rest)
    | '"' :: rest => basic (rest.length + 1) rest
    | '\'' :: rest => literal rest
    | _ => none
  read.map fun (s, rest) => (String.ofList s, rest)

/-! ### Keys -/

/-- How deep lists and inline tables may stand in each other, and how many parts a key may have. -/
def maxDepth : Nat := 80

/-- Whether a character may stand in a key without quotes. -/
def isBare (c : Char) : Bool := c.isAlphanum || c == '_' || c == '-'

def simpleKey (cs : List Char) : Option (String × List Char) :=
  match cs with
  | '"' :: rest => (basic (rest.length + 1) rest).map fun (s, rest) => (String.ofList s, rest)
  | '\'' :: rest => (literal rest).map fun (s, rest) => (String.ofList s, rest)
  | _ =>
    let name := cs.takeWhile isBare
    if name.isEmpty then none else some (String.ofList name, cs.dropWhile isBare)

/-- Reads a key with up to `most` parts between dots. -/
def keyParts : (most : Nat) → List Char → Option (List String × List Char)
  | 0, _ => none
  | most + 1, cs =>
    match simpleKey (skipBlanks cs) with
    | none => none
    | some (part, rest) =>
      match skipBlanks rest with
      | '.' :: rest => (keyParts most rest).map fun (parts, rest) => (part :: parts, rest)
      | rest => some ([part], rest)

def key (cs : List Char) : Option (List String × List Char) := keyParts maxDepth cs

end VlanBridge.Data.Toml
