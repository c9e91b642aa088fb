import VlanBridge.Net.Vid
import VlanBridge.Net.EtherType
/-!
# VLAN tags

A tag has a protocol number, a priority, a drop-eligible flag and a VLAN identifier. The last three
share one 16-bit word on the wire: three bits of priority, one flag, twelve bits of identifier, of
which 4095 is reserved. `ofWord_word` says that a tag with a three-bit priority reads back from its
word.
-/

namespace VlanBridge.Net

/-- A VLAN tag. A priority above 7 can be stored, but only its low three bits are ever sent. -/
structure Tag where
  proto : EtherType
  priority : UInt8
  dropEligible : Bool
  vid : Vid
  deriving DecidableEq, Repr

namespace Tag

/-- The tag of a VLAN with the lowest priority. -/
def plain (proto : EtherType) (vid : Vid) : Tag := ⟨proto, 0, false, vid⟩

def word (t : Tag) : Nat :=
  t.priority.toNat % 8 * 8192 + (if t.dropEligible then 4096 else 0) + t.vid.number

theorem word_lt (t : Tag) : t.word < 65536 := by
  have := t.vid.number_le
  have : t.priority.toNat % 8 < 8 := Nat.mod_lt _ (by omega)
  unfold word
  split <;> omega

/-- The tag with a given control word; the reserved identifier 4095 is an error. -/
def ofWord (proto : EtherType) (w : Nat) : Except Malformed Tag :=
  match Vid.ofNat (w % 4096) with
  | .ok vid => .ok ⟨proto, UInt8.ofNat (w / 8192 % 8), w / 4096 % 2 == 1, vid⟩
  | .error e => .error e

theorem ofWord_word (t : Tag) (h : t.priority.toNat < 8) : ofWord t.proto t.word = .ok t := by
  obtain ⟨proto, priority, dropEligible, vid⟩ := t
  have hv := vid.number_le
  simp only at h
  have hp : priority.toNat % 8 = priority.toNat := Nat.mod_eq_of_lt h
  have low : (⟨proto, priority, dropEligible, vid⟩ : Tag).word % 4096 = vid.number := by
    simp only [word, hp]
    split <;> omega
  have high : (⟨proto, priority, dropEligible, vid⟩ : Tag).word / 8192 % 8 = priority.toNat := by
    simp only [word, hp]
    split <;> omega
  have flag : ((⟨proto, priority, dropEligible, vid⟩ : Tag).word / 4096 % 2 == 1) = dropEligible := by
    simp only [word, hp]
    cases dropEligible
    · simp only [Bool.false_eq_true, if_false, beq_eq_false_iff_ne]
      omega
    · simp only [if_true, beq_iff_eq]
      omega
  simp only [ofWord, low, high, flag, Vid.ofNat, Vid.ofNat?_number, UInt8.ofNat_toNat]

/-- The two octets of the control word, high octet first. -/
def wordOctets (t : Tag) : List UInt8 := [UInt8.ofNat (t.word / 256), UInt8.ofNat (t.word % 256)]

/-- Reads the control word at the front of a row of octets. -/
def ofOctets (proto : EtherType) (bytes : List UInt8) : Except Malformed Tag :=
  match bytes with
  | hi :: lo :: _ => ofWord proto (hi.toNat * 256 + lo.toNat)
  | _ => .error (.truncatedTag bytes.length)

theorem ofOctets_wordOctets (t : Tag) (rest : List UInt8) :
    ofOctets t.proto (t.wordOctets ++ rest) = ofWord t.proto t.word := by
  have hw := t.word_lt
  have hi : t.word / 256 < 256 := by omega
  have lo : t.word % 256 < 256 := by omega
  have join : t.word / 256 * 256 + t.word % 256 = t.word := by omega
  simp only [wordOctets, List.cons_append, List.nil_append, ofOctets, UInt8.toNat_ofNat',
    Nat.mod_eq_of_lt hi, Nat.mod_eq_of_lt lo, join]

/-- Whether the tag carries a priority but no VLAN. -/
def isPriorityOnly (t : Tag) : Bool := t.vid.isZero

def withProto (t : Tag) (proto : EtherType) : Tag := { t with proto := proto }

def withVid (t : Tag) (vid : Vid) : Tag := { t with vid := vid }

/-- The tag as sent: protocol number and control word. -/
def octets (t : Tag) : List UInt8 := t.proto.octets ++ t.wordOctets

theorem octets_length (t : Tag) : t.octets.length = 4 := rfl

end Tag

end VlanBridge.Net
