import VlanBridge.Text.Number
/-!
# Bytes as text

Two lower-case hexadecimal digits per byte, without separators. Reading takes either case and
refuses an odd number of digits.
-/

namespace VlanBridge.Text.Hex

open VlanBridge.Text.Number

/-- The two digits of one byte, high half first. -/
def pair (b : UInt8) : List Char := [digitChar (b.toNat / 16), digitChar (b.toNat % 16)]

def encode (bytes : List UInt8) : List Char := bytes.flatMap pair

def digit? (c : Char) : Option Nat := (digitValue c).filter (· < 16)

def decode? : List Char → Option (List UInt8)
  | [] => some []
  | [_] => none
  | hi :: lo :: rest =>
    match digit? hi, digit? lo, decode? rest with
    | some h, some l, some bytes => some (UInt8.ofNat (h * 16 + l) :: bytes)
    | _, _, _ => none

theorem digit?_digitChar {n : Nat} (h : n < 16) : digit? (digitChar n) = some n := by
  have := digitValue_digitChar ⟨n, by omega⟩
  simp only at this
  simp [digit?, this, h]

/-- What `encode` writes, `decode?` reads back. -/
theorem decode_encode (bytes : List UInt8) : decode? (encode bytes) = some bytes := by
  induction bytes with
  | nil => rfl
  | cons b bytes ih =>
    have hb : b.toNat < 256 := b.toNat_lt
    have hi : b.toNat / 16 < 16 := by omega
    have lo : b.toNat % 16 < 16 := by omega
    have join : b.toNat / 16 * 16 + b.toNat % 16 = b.toNat := by omega
    show decode? (digitChar (b.toNat / 16) :: digitChar (b.toNat % 16) :: encode bytes) = _
    simp only [decode?, digit?_digitChar hi, digit?_digitChar lo, ih, join, UInt8.ofNat_toNat]

end VlanBridge.Text.Hex
