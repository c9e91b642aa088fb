import VlanBridge.Data.Toml.Moment
import VlanBridge.Data.Toml.Token
/-!
# Values without quotes in TOML

Numbers, truth values and moments. Underscores may stand between the digits of a number; on either
side of one stands a digit, and in a whole number each digit of radix 16 counts as one. A whole
number has a value if it fits into 128 bits with or without a sign, and any other number if it does
not exceed all floating-point numbers. A radix without digits has no value, and neither has a whole
number with other characters behind its first underscore.
-/

namespace VlanBridge.Data.Toml

open VlanBridge.Text VlanBridge.Text.Number

def isDigitOf (radix : Nat) (c : Char) : Bool := ((digitValue c).filter (· < radix)).isSome

/-- Whether each underscore stands between two digits of a radix, where `behindDigit` says whether
there is a digit in front of all. -/
def isGroupedBehind (radix : Nat) : (behindDigit : Bool) → List Char → Bool
  | _, [] => true
  | _, ['_'] => false
  | behindDigit, '_' :: c :: rest =>
    behindDigit && isDigitOf radix c && isGroupedBehind radix true rest
  | _, c :: rest => isGroupedBehind radix (isDigitOf radix c) rest

/-- Whether each underscore stands between two digits of a radix. -/
def isGrouped (radix : Nat) (cs : List Char) : Bool := isGroupedBehind radix false cs

def ungrouped (cs : List Char) : List Char := cs.filter (· != '_')

def sign? (cs : List Char) : Option Char := cs.head?.filter fun c => c == '-' || c == '+'

def unsigned (cs : List Char) : List Char := if (sign? cs).isSome then cs.tail else cs

def withSign (sign : Option Char) (n : Nat) : Int := if sign = some '-' then -(n : Int) else n

/-! ### Whole numbers -/

def whole (n : Int) : Value :=
  if -(Nat.pow 2 127 : Int) ≤ n ∧ n < Nat.pow 2 128 then .int n else .unvalued

/-- A whole number written in digits of a radix, if it has a value. -/
def wholeOf (radix : Nat) (sign : Option Char) (cs : List Char) : Value :=
  ((parse? radix (ungrouped cs)).map fun n => whole (withSign sign n)).getD .unvalued

/-- A whole number in digits of a radix that is written in front of them. -/
def inRadix? (radix : Nat) (cs : List Char) : Option Value :=
  if (ungrouped cs).all (isDigitOf radix) && isGrouped radix cs then
    some (wholeOf radix none cs)
  else none

/-- A whole number in decimal, which begins with zero only if it is zero. -/
def decimal? (cs : List Char) : Option Value :=
  let body := unsigned cs
  let isWritten :=
    match body.dropWhile Char.isDigit with
    | [] => !body.isEmpty && (body == ['0'] || body.head? != some '0')
    | c :: _ => c == '_' && body.head? != some '0' && isGrouped 16 body
  if isWritten then some (wholeOf 10 (sign? cs) body) else none

/-! ### Other numbers -/

/-- Whether a character sets a number that is not whole apart. -/
def isRealMark (c : Char) : Bool := c == '.' || c == 'e' || c == 'E'

def exponent? (cs : List Char) : Option Int :=
  match cs with
  | c :: rest =>
    if c = 'e' ∨ c = 'E' then (parse? 10 (unsigned rest)).map (withSign (sign? rest)) else none
  | [] => none

/-- What follows the whole part of a number that has more parts: the digits of a fraction, and an
exponent. -/
def parts? (cs : List Char) : Option (List Char × Int) :=
  match cs with
  | '.' :: rest =>
    let fraction := rest.takeWhile Char.isDigit
    let exponent := rest.dropWhile Char.isDigit
    if fraction.isEmpty then none
    else if exponent.isEmpty then some (fraction, 0)
    else (exponent? exponent).map (fraction, ·)
  | _ => (exponent? cs).map ([], ·)

/-- A number with a fraction or an exponent, or one of the words for numbers without digits. The
whole part begins with zero only if it has no further digit. -/
def real? (cs : List Char) : Option Value :=
  let body := unsigned cs
  let written := Value.real (String.ofList cs)
  if body = "inf".toList ∨ body = "nan".toList then some written
  else
    let digits := (ungrouped body).takeWhile Char.isDigit
    match parts? ((ungrouped body).dropWhile Char.isDigit) with
    | some (fraction, exponent) =>
      let leadingZero := digits.head? == some '0' && 1 < digits.length
      if digits.isEmpty || leadingZero || !isGrouped 10 body then none
      else (parse? 10 (digits ++ fraction)).map fun n =>
        if exceedsDouble n (exponent - fraction.length) then .unvalued else written
    | none => none

/-! ### Words -/

/-- A moment, which is a record with its text in a field that has no name. -/
def moment (cs : List Char) : Value := .obj [("", .str (String.ofList cs))]

def plain? (cs : List Char) : Option Value :=
  match cs with
  | '0' :: 'x' :: ds => inRadix? 16 ds
  | '0' :: 'o' :: ds => inRadix? 8 ds
  | '0' :: 'b' :: ds => inRadix? 2 ds
  | _ =>
    if cs = "true".toList then some (.bool true)
    else if cs = "false".toList then some (.bool false)
    else if isMoment cs then some (moment cs)
    else if cs.any isRealMark then real? cs
    else (decimal? cs).or (real? cs)

/-- Whether a character can stand in a word without quotes, which reaches up to a blank, a line end,
or a mark of lists, tables, pairs and comments. -/
def isPlain (c : Char) : Bool := c ∉ " \t\n\r#,=[]\x7b\x7d".toList

/-- The word at the front and what follows it. A date goes on with a time behind one blank. -/
def plainWord (cs : List Char) : List Char × List Char :=
  let word := cs.takeWhile isPlain
  match cs.dropWhile isPlain with
  | ' ' :: d :: rest =>
    if skipDate word = some [] ∧ d.isDigit then
      (word ++ ' ' :: (d :: rest).takeWhile isPlain, (d :: rest).dropWhile isPlain)
    else (word, ' ' :: d :: rest)
  | rest => (word, rest)

end VlanBridge.Data.Toml
