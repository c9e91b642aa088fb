import VlanBridge.Text.Number
/-!
# Lengths of time as text

A length of time is written in the largest unit of second, millisecond, microsecond and nanosecond
that fits into it, with as many decimal places as it needs: `10s`, `1.5s`, `250ms`, `0ns`.
-/

namespace VlanBridge.Text.Duration

open VlanBridge.Text.Number

/-- The decimal places of `part` out of `10 ^ places`, without trailing zeros. -/
def places (part count : Nat) : List Char :=
  ((padded 10 count part).reverse.dropWhile (· = '0')).reverse

/-- The amount `ns` in units of `10 ^ exponent` nanoseconds. -/
def inUnits (ns exponent : Nat) : List Char :=
  let unit := Nat.pow 10 exponent
  let whole := digits 10 (ns / unit)
  let part := ns % unit
  if part = 0 then whole else whole ++ '.' :: places part exponent

def text (ns : Nat) : String :=
  if 1000000000 ≤ ns then String.ofList (inUnits ns 9) ++ "s"
  else if 1000000 ≤ ns then String.ofList (inUnits ns 6) ++ "ms"
  else if 1000 ≤ ns then String.ofList (inUnits ns 3) ++ "µs"
  else String.ofList (inUnits ns 0) ++ "ns"

end VlanBridge.Text.Duration
