import VlanBridge.Text.Number
/-!
# IPv4 addresses

Four octets, written in decimal between dots. Reading takes exactly that form: one to three digits
per octet and no leading zeros.
-/

namespace VlanBridge.Net

open VlanBridge.Text.Number

structure Ipv4 where
  o0 : UInt8
  o1 : UInt8
  o2 : UInt8
  o3 : UInt8
  deriving DecidableEq, Repr, Inhabited

structure NumberForm where
  radix : Nat
  /-- The most digits it may have. -/
  width : Nat
  /-- Whether zeros may stand in front of other digits. -/
  leadingZeros : Bool
  /-- The largest value. -/
  bound : Nat

/-- Reads a number off the front, with all the digits that stand there, and gives what follows. -/
def NumberForm.read? (form : NumberForm) (cs : List Char) : Option (Nat × List Char) :=
  let isDigit := fun c => ((digitValue c).filter (· < form.radix)).isSome
  let ds := cs.takeWhile isDigit
  if form.width < ds.length then none
  else if !form.leadingZeros && 1 < ds.length && ds.head? == some '0' then none
  else match parse? form.radix ds with
    | some n => if n ≤ form.bound then some (n, cs.dropWhile isDigit) else none
    | none => none

/-- Reads what `inner` reads, behind a separator unless it is the first part. -/
def separated? {α : Type} (sep : Char) (isFirst : Bool) (inner : List Char → Option (α × List Char))
    (cs : List Char) : Option (α × List Char) :=
  if isFirst then inner cs
  else match cs with
    | c :: rest => if c = sep then inner rest else none
    | [] => none

namespace Ipv4

def octetForm : NumberForm := ⟨10, 3, false, 255⟩

def ofNats (a b c d : Nat) : Ipv4 := ⟨UInt8.ofNat a, UInt8.ofNat b, UInt8.ofNat c, UInt8.ofNat d⟩

def read? (cs : List Char) : Option (Ipv4 × List Char) := do
  let (a, cs) ← separated? '.' true octetForm.read? cs
  let (b, cs) ← separated? '.' false octetForm.read? cs
  let (c, cs) ← separated? '.' false octetForm.read? cs
  let (d, cs) ← separated? '.' false octetForm.read? cs
  return (ofNats a b c d, cs)

def parse? (s : String) : Option Ipv4 :=
  match read? s.toList with
  | some (ip, []) => some ip
  | _ => none

def chars (ip : Ipv4) : List Char :=
  digits 10 ip.o0.toNat ++ '.' :: digits 10 ip.o1.toNat ++ '.' :: digits 10 ip.o2.toNat
    ++ '.' :: digits 10 ip.o3.toNat

def text (ip : Ipv4) : String := String.ofList ip.chars

/-- The octets as one big-endian number. -/
def toNat (ip : Ipv4) : Nat :=
  [ip.o0, ip.o1, ip.o2, ip.o3].foldl (fun acc o => acc * 256 + o.toNat) 0

def ofOctets? : List UInt8 → Option Ipv4
  | [a, b, c, d] => some ⟨a, b, c, d⟩
  | _ => none

/-- Whether the address names a group: 224.0.0.0 to 239.255.255.255. -/
def isMulticast (ip : Ipv4) : Bool := 224 ≤ ip.o0 && ip.o0 ≤ 239

end Ipv4

end VlanBridge.Net
