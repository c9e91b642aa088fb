import VlanBridge.Net.Malformed
/-!
# VLAN identifiers

Identifiers run from 0 to 4094; 0 stands for "no VLAN", the domain that every bridge has. The text
form is a decimal number, with the word `vlan` in front or without it.
-/

namespace VlanBridge.Net

open VlanBridge.Text.Number

structure Vid where
  number : Nat
  number_le : number ≤ 4094 := by omega
  deriving DecidableEq, Repr

namespace Vid

def zero : Vid := ⟨0, by omega⟩

instance : Inhabited Vid := ⟨zero⟩

instance : Ord Vid := ⟨fun a b => compare a.number b.number⟩

@[ext] theorem ext {a b : Vid} (h : a.number = b.number) : a = b := by
  cases a
  cases b
  simp only at h
  simp [h]

def ofNat? (n : Nat) : Option Vid := if h : n ≤ 4094 then some ⟨n, h⟩ else none

theorem ofNat?_number (v : Vid) : ofNat? v.number = some v := by
  simp [ofNat?, v.number_le]

/-- The identifier with number `n`; a number above 4094 is an error. -/
def ofNat (n : Nat) : Except Malformed Vid :=
  match ofNat? n with
  | some v => .ok v
  | none => .error (.vid n)

/-- Whether this is the default domain's identifier. -/
def isZero (v : Vid) : Bool := v.number == 0

theorem isZero_iff {v : Vid} : v.isZero = true ↔ v = zero := by
  simp only [isZero, beq_iff_eq]
  exact ⟨fun h => Vid.ext h, fun h => h ▸ rfl⟩

def text (v : Vid) : String := decimal v.number

/-- Takes the word `vlan`, in letters of either case, off the front. -/
def dropWord (cs : List Char) : List Char :=
  if (cs.take 4).map Char.toLower = ['v', 'l', 'a', 'n'] then cs.drop 4 else cs

def parse (s : String) : Except Malformed Vid :=
  match parseSigned? 10 65535 (dropWord s.toList) with
  | some n => ofNat n
  | none => .error (.vid 65535)

end Vid

end VlanBridge.Net
