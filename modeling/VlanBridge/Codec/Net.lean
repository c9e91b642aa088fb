import VlanBridge.Data.Value
import VlanBridge.Fdb.Key
import VlanBridge.Net.EtherType
/-!
# Addresses and identifiers as data

Addresses are written as their texts, identifiers and ether types as numbers. `ofValue?` reads what
`toValue` writes.
-/

namespace VlanBridge

open VlanBridge.Data

/-- The member of a list that is known by a word. -/
def named? {α : Type} (all : List α) (word : α → String) (s : String) : Option α :=
  all.find? fun a => word a == s

namespace Net

def Mac.toValue (m : Mac) : Value := .str m.text

def Mac.ofValue? : Value → Option Mac
  | .str s => (Mac.parse s).toOption
  | _ => none

def Mac.infoValue (m : Mac) : Value :=
  .obj [("bytes", Value.nats (m.octets.map (·.toNat))), ("text", .str m.text),
    ("multicast", .bool m.isGroup), ("unicast", .bool !m.isGroup),
    ("broadcast", .bool m.isBroadcast), ("zero", .bool m.isZero),
    ("valid_unicast", .bool m.isStation)]

def Vid.toValue (v : Vid) : Value := Value.nat v.number

def Vid.ofValue? (v : Value) : Option Vid := (v.nat? 65535).bind Vid.ofNat?

theorem Vid.ofValue?_toValue (v : Vid) : Vid.ofValue? v.toValue = some v := by
  have h : v.number ≤ 65535 := Nat.le_trans v.number_le (by decide)
  simp [Vid.ofValue?, Vid.toValue, Value.nat?_nat h, Vid.ofNat?_number]

def EtherType.toValue (t : EtherType) : Value := Value.nat t.number.toNat

def EtherType.ofValue? (v : Value) : Option EtherType := v.word16?.map EtherType.mk

theorem EtherType.ofValue?_toValue (t : EtherType) : EtherType.ofValue? t.toValue = some t := by
  have h : t.number.toNat ≤ 65535 := Nat.le_of_lt_succ t.number.toNat_lt
  simp [EtherType.ofValue?, EtherType.toValue, Value.word16?, Value.nat?_nat h]

end Net

open VlanBridge.Net

namespace AddressKind

def word : AddressKind → String
  | .mac => "mac"
  | .ipv4Multicast => "ipv4multicast"
  | .ipv6Multicast => "ipv6multicast"

def toValue (k : AddressKind) : Value := .str k.word

def ofValue? : Value → Option AddressKind :=
  Value.word? (named? [.mac, .ipv4Multicast, .ipv6Multicast] word)

theorem ofValue?_toValue (k : AddressKind) : ofValue? k.toValue = some k := by
  cases k <;> decide

end AddressKind

namespace Address

/-- What an address is called in a record that holds it. -/
inductive Tag where
  | mac
  | ipv4
  | ipv6
  deriving DecidableEq

def Tag.word : Tag → String
  | .mac => "mac"
  | .ipv4 => "ipv4"
  | .ipv6 => "ipv6"

def Tag.all : List Tag := [.mac, .ipv4, .ipv6]

def Tag.read? (source : Source) : Value → Option Tag := Value.wordFrom? source (named? all word)

/-- Reads a tag that is the first of a list. It has to be a word; only below another tag it may also
be its number. -/
def Tag.ofItem? (source : Source) : Value → Option Tag
  | .str s => named? all word s
  | .int (.ofNat n) => if source = .tagged then all[n]? else none
  | _ => none

def tag : Address → Tag
  | .mac _ => .mac
  | .ipv4 _ => .ipv4
  | .ipv6 _ => .ipv6

def toValue (a : Address) : Value :=
  .obj [("kind", .str a.tag.word), ("addr", .str a.text)]

/-- Reads an address of a given kind from its text. -/
def ofTextValue? (t : Tag) : Value → Option Address
  | .str s =>
    match t with
    | .mac => (Mac.parse s).toOption.map .mac
    | .ipv4 => (Ipv4.parse? s).map .ipv4
    | .ipv6 => (Ipv6.parse? s).map .ipv6
  | _ => none

/-- Reads an address; a list has to hold both its parts. -/
def read? (source : Source) : Value → Option Address
  | .arr [tag, text] => (Tag.ofItem? source tag).bind fun t => ofTextValue? t text
  | .obj fs =>
    (Fields.required fs "kind" (Tag.read? source)).bind fun t =>
      Fields.required fs "addr" (ofTextValue? t)
  | _ => none

def ofValue? : Value → Option Address := read? .direct

end Address

namespace Key

def toValue (k : Key) : Value := .obj [("vid", k.vid.toValue), ("addr", k.address.toValue)]

def read? (source : Source) (v : Value) : Option Key :=
  match v.fieldsFrom? source ["vid", "addr"] with
  | some fs =>
    match fs.required "vid" Vid.ofValue?, fs.required "addr" (Address.read? source) with
    | some vid, some address => some ⟨vid, address⟩
    | _, _ => none
  | none => none

def ofValue? : Value → Option Key := read? .direct

end Key

end VlanBridge
