import VlanBridge.Net.Malformed
import VlanBridge.Text.Split
/-!
# MAC addresses

Six octets. The lowest bit of the first octet marks a group address; a station address is one that
is neither a group nor zero. The text form has six parts between colons, or between hyphens where
there is no colon.
-/

namespace VlanBridge.Net

open VlanBridge.Text VlanBridge.Text.Number

/-- A MAC address, in the order in which its octets are sent. -/
structure Mac where
  o0 : UInt8
  o1 : UInt8
  o2 : UInt8
  o3 : UInt8
  o4 : UInt8
  o5 : UInt8
  deriving DecidableEq, Repr, Inhabited

namespace Mac

def broadcast : Mac := ⟨255, 255, 255, 255, 255, 255⟩

def zero : Mac := ⟨0, 0, 0, 0, 0, 0⟩

def octets (m : Mac) : List UInt8 := [m.o0, m.o1, m.o2, m.o3, m.o4, m.o5]

theorem octets_length (m : Mac) : m.octets.length = 6 := rfl

/-- The address in the first six of a row of octets. -/
def ofOctets? : List UInt8 → Option Mac
  | a :: b :: c :: d :: e :: f :: _ => some ⟨a, b, c, d, e, f⟩
  | _ => none

theorem ofOctets?_octets (m : Mac) (rest : List UInt8) :
    ofOctets? (m.octets ++ rest) = some m := rfl

/-- The octets as one big-endian number, which orders addresses as their octets do. -/
def toNat (m : Mac) : Nat :=
  m.octets.foldl (fun acc o => acc * 256 + o.toNat) 0

/-- Whether the address names a group of stations. -/
def isGroup (m : Mac) : Bool := m.o0 &&& 1 != 0

/-- Whether the address is the one of all stations. -/
def isBroadcast (m : Mac) : Bool := m == broadcast

def isZero (m : Mac) : Bool := m == zero

/-- Whether a station can have the address: no group and not zero. -/
def isStation (m : Mac) : Bool := !m.isGroup && !m.isZero

/-- Two lower-case digits per octet, between colons. -/
def chars (m : Mac) : List Char := joinWith ':' (m.octets.map fun o => padded 16 2 o.toNat)

def text (m : Mac) : String := String.ofList m.chars

/-- The octet that one part of the text form stands for. -/
def octet? (part : List Char) : Option UInt8 := (parseSigned? 16 255 part).map UInt8.ofNat

def ofChars? (cs : List Char) : Option Mac :=
  match splitAt (if ':' ∈ cs then ':' else '-') cs with
  | [a, b, c, d, e, f] =>
    match octet? a, octet? b, octet? c, octet? d, octet? e, octet? f with
    | some a, some b, some c, some d, some e, some f => some ⟨a, b, c, d, e, f⟩
    | _, _, _, _, _, _ => none
  | _ => none

def parse (s : String) : Except Malformed Mac :=
  match ofChars? s.toList with
  | some m => .ok m
  | none => .error (.mac s)

end Mac

end VlanBridge.Net
