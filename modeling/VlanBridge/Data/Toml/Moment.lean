import VlanBridge.Text.Number
/-!
# Dates and times in TOML

A date, a time of day, or a date with a time and perhaps its distance from the common time. Seconds
and their fraction may be left out. Days that no month has and hours that no day has are refused.
-/

namespace VlanBridge.Data.Toml

open VlanBridge.Text.Number

/-- Reads digits at the front, as many as there are, which have to be `width`. -/
def fixedNumber? (width : Nat) (cs : List Char) : Option (Nat × List Char) :=
  let ds := cs.takeWhile Char.isDigit
  if ds.length = width then (parse? 10 ds).map (·, cs.dropWhile Char.isDigit) else none

/-- Reads two numbers of two digits with a colon between them. -/
def clock? (cs : List Char) : Option (Nat × Nat × List Char) :=
  match fixedNumber? 2 cs with
  | some (hours, ':' :: rest) =>
    (fixedNumber? 2 rest).map fun (minutes, rest) => (hours, minutes, rest)
  | _ => none

def monthLength (year month : Nat) : Nat :=
  if month = 2 then
    if year % 4 = 0 ∧ (year % 100 ≠ 0 ∨ year % 400 = 0) then 29 else 28
  else if month ∈ [4, 6, 9, 11] then 30
  else 31

def isDay (year month day : Nat) : Bool :=
  1 ≤ month && month ≤ 12 && 1 ≤ day && day ≤ monthLength year month

def skipDate (cs : List Char) : Option (List Char) :=
  match fixedNumber? 4 cs with
  | some (year, '-' :: rest) =>
    match fixedNumber? 2 rest with
    | some (month, '-' :: rest) =>
      match fixedNumber? 2 rest with
      | some (day, rest) => if isDay year month day then some rest else none
      | none => none
    | _ => none
  | _ => none

/-- Leaves out the fraction of a second if there is one. -/
def skipFraction (cs : List Char) : Option (List Char) :=
  match cs with
  | '.' :: rest =>
    if (rest.takeWhile Char.isDigit).isEmpty then none else some (rest.dropWhile Char.isDigit)
  | _ => some cs

/-- Leaves out seconds if there are any; a minute may have one more than sixty. -/
def skipSeconds (cs : List Char) : Option (List Char) :=
  match cs with
  | ':' :: rest =>
    match fixedNumber? 2 rest with
    | some (seconds, rest) => if seconds ≤ 60 then skipFraction rest else none
    | none => none
  | _ => some cs

def skipTime (cs : List Char) : Option (List Char) :=
  match clock? cs with
  | some (hours, minutes, rest) => if hours ≤ 23 ∧ minutes ≤ 59 then skipSeconds rest else none
  | none => none

/-- Leaves out the distance from the common time if there is one. -/
def skipOffset (cs : List Char) : Option (List Char) :=
  match cs with
  | [] => some []
  | sign :: rest =>
    if sign = 'Z' ∨ sign = 'z' then some rest
    else if sign = '+' ∨ sign = '-' then
      match clock? rest with
      | some (hours, minutes, rest) => if hours ≤ 23 ∧ minutes ≤ 59 then some rest else none
      | none => none
    else some cs

/-- Whether this is a date, a time of day, or both. -/
def isMoment (cs : List Char) : Bool :=
  match skipDate cs with
  | none => skipTime cs == some []
  | some [] => true
  | some (mark :: rest) =>
    (mark == 'T' || mark == 't' || mark == ' ') && (skipTime rest).bind skipOffset == some []

end VlanBridge.Data.Toml
