import VlanBridge.Net.Ipv4
/-!
# IPv6 addresses

Eight 16-bit groups. The written form leaves out leading zeros and puts `::` for the longest run of
at least two zero groups, the first of equally long ones; an address that carries an IPv4 address
behind `::ffff:` is written with that address in decimal. Reading also takes a trailing IPv4 address
anywhere it fits, and `::` for any number of zero groups.
-/

namespace VlanBridge.Net

open VlanBridge.Text.Number

structure Ipv6 where
  g0 : UInt16
  g1 : UInt16
  g2 : UInt16
  g3 : UInt16
  g4 : UInt16
  g5 : UInt16
  g6 : UInt16
  g7 : UInt16
  deriving DecidableEq, Repr, Inhabited

namespace Ipv6

def groups (ip : Ipv6) : List UInt16 :=
  [ip.g0, ip.g1, ip.g2, ip.g3, ip.g4, ip.g5, ip.g6, ip.g7]

theorem groups_length (ip : Ipv6) : ip.groups.length = 8 := rfl

def ofGroups? : List UInt16 → Option Ipv6
  | [a, b, c, d, e, f, g, h] => some ⟨a, b, c, d, e, f, g, h⟩
  | _ => none

theorem ofGroups?_groups (ip : Ipv6) : ofGroups? ip.groups = some ip := rfl

def group (hi lo : UInt8) : UInt16 := UInt16.ofNat (hi.toNat * 256 + lo.toNat)

def ofOctets? : List UInt8 → Option Ipv6
  | [a, b, c, d, e, f, g, h, i, j, k, l, m, n, o, p] =>
    some ⟨group a b, group c d, group e f, group g h, group i j, group k l, group m n, group o p⟩
  | _ => none

/-- The groups as one big-endian number. -/
def toNat (ip : Ipv6) : Nat := ip.groups.foldl (fun acc g => acc * 65536 + g.toNat) 0

/-- Whether the address names a group of hosts: its first octet is `ff`. -/
def isMulticast (ip : Ipv6) : Bool := ip.g0 / 256 == 255

/-! ### Reading -/

def groupForm : NumberForm := ⟨16, 4, true, 65535⟩

/-- Reads up to `limit` groups between colons, the last two of them possibly as an IPv4 address;
says whether it was, and gives what follows. -/
def readGroups : (limit : Nat) → (isFirst : Bool) → List Char → List UInt16 × Bool × List Char
  | 0, _, cs => ([], false, cs)
  | limit + 1, isFirst, cs =>
    let embedded := if 0 < limit then separated? ':' isFirst Ipv4.read? cs else none
    match embedded with
    | some (ip, rest) => ([group ip.o0 ip.o1, group ip.o2 ip.o3], true, rest)
    | none =>
      match separated? ':' isFirst groupForm.read? cs with
      | some (g, rest) =>
        let (gs, found, rest) := readGroups limit false rest
        (UInt16.ofNat g :: gs, found, rest)
      | none => ([], false, cs)

def read? (cs : List Char) : Option (Ipv6 × List Char) :=
  let (head, embedded, rest) := readGroups 8 true cs
  if head.length = 8 then (ofGroups? head).map (·, rest)
  else if embedded then none
  else match rest with
    | ':' :: ':' :: rest =>
      let (tail, _, rest) := readGroups (7 - head.length) true rest
      let zeros := List.replicate (8 - head.length - tail.length) 0
      (ofGroups? (head ++ zeros ++ tail)).map (·, rest)
    | _ => none

def parse? (s : String) : Option Ipv6 :=
  match read? s.toList with
  | some (ip, []) => some ip
  | _ => none

/-! ### Writing -/

/-- Start and length of the longest run of zero groups, the first of equally long ones; the groups
given start at place `i`. -/
def longestZeros : (i : Nat) → List UInt16 → Nat × Nat
  | _, [] => (0, 0)
  | i, g :: gs =>
    let here := ((g :: gs).takeWhile (· == 0)).length
    let later := longestZeros (i + 1) gs
    if later.2 ≤ here then (i, here) else later

/-- Groups without leading zeros, between colons. -/
def groupChars : List UInt16 → List Char
  | [] => []
  | [g] => digits 16 g.toNat
  | g :: gs => digits 16 g.toNat ++ ':' :: groupChars gs

/-- The IPv4 address behind `::ffff:`, if this is such an address. -/
def mapped? (ip : Ipv6) : Option Ipv4 :=
  if ip.groups.take 6 = [0, 0, 0, 0, 0, 65535] then
    some (Ipv4.ofNats (ip.g6.toNat / 256) (ip.g6.toNat % 256) (ip.g7.toNat / 256)
      (ip.g7.toNat % 256))
  else none

def chars (ip : Ipv6) : List Char :=
  match ip.mapped? with
  | some v4 => "::ffff:".toList ++ v4.chars
  | none =>
    let (start, length) := longestZeros 0 ip.groups
    if 1 < length then
      groupChars (ip.groups.take start) ++ ':' :: ':' :: groupChars (ip.groups.drop (start + length))
    else groupChars ip.groups

def text (ip : Ipv6) : String := String.ofList ip.chars

end Ipv6

end VlanBridge.Net
