import VlanBridge.Frame
import VlanBridge.Proofs.PortWords
/-!
# Frames read by fixed places

The parts of a frame stand at fixed places in its octets, and a frame may be too short for them. Here the
octets are reached as a machine reaches them. Whatever the octets are, no access fails, and what is read
and written is what the functions of `Frame` say.
-/

namespace VlanBridge

open VlanBridge.Net

namespace Access

def octet (bytes : List UInt8) (n : Nat) : Access UInt8 := do
  let n ← Access.index n bytes.length
  return bytes[n]

/-- Uses two numbers as the ends of a part of a row. -/
def part (start stop length : Nat) : Access Unit :=
  if start ≤ stop ∧ stop ≤ length then pure () else throw (.slice start stop length)

def difference (n m : Nat) : Access Nat := if m ≤ n then pure (n - m) else throw (.difference n m)

/-- Takes a part out of a row. -/
def drain (bytes : List UInt8) (start stop : Nat) : Access (List UInt8) := do
  part start stop bytes.length
  return bytes.take start ++ bytes.drop stop

/-- Writes over a part of a row. -/
def copy (bytes : List UInt8) (start stop : Nat) (source : List UInt8) : Access (List UInt8) := do
  part start stop bytes.length
  if source.length = stop - start then return bytes.take start ++ source ++ bytes.drop stop
  else throw (.copy (stop - start) source.length)

/-- Puts a row into another one. -/
def splice (bytes : List UInt8) (n : Nat) (inserted : List UInt8) : Access (List UInt8) := do
  part n n bytes.length
  return bytes.take n ++ inserted ++ bytes.drop n

theorem part_of_le {start stop length : Nat} (h : start ≤ stop ∧ stop ≤ length) :
    part start stop length = pure () := if_pos h

end Access

/-- The part of a row between two places, if the row is long enough. -/
def slice? (bytes : List UInt8) (start stop : Nat) : Option (List UInt8) :=
  if start ≤ stop ∧ stop ≤ bytes.length then some ((bytes.drop start).take (stop - start)) else none

/-- The control word of a tag at the front of a row. -/
def Net.Tag.ofOctetsChecked (proto : EtherType) (bytes : List UInt8) :
    Access (Except Malformed Tag) := do
  match slice? bytes 0 2 with
  | none => return .error (.truncatedTag bytes.length)
  | some part =>
    let hi ← Access.octet part 0
    let lo ← Access.octet part 1
    return Tag.ofWord proto (hi.toNat * 256 + lo.toNat)

namespace Frame

def etherTypeChecked (f : Frame) : Access (Option EtherType) := do
  match slice? f.data etherTypeOffset headerLength with
  | none => return none
  | some part =>
    let hi ← Access.octet part 0
    let lo ← Access.octet part 1
    return some (EtherType.ofOctets hi lo)

def untagChecked (f : Frame) (proto : EtherType) : Access (Except Malformed (Option Frame)) := do
  let etherType ← f.etherTypeChecked
  if etherType = some proto then
    match ← Tag.ofOctetsChecked proto f.payload with
    | .error e => return .error e
    | .ok tag =>
      if f.data.length < headerLength + tagLength then
        let left ← Access.difference f.data.length headerLength
        return .error (.truncatedTag left)
      else
        let data ← Access.drain f.data etherTypeOffset (etherTypeOffset + tagLength)
        return .ok (some { data, tag := some tag })
  else return .ok none

def ipv4DstChecked (f : Frame) : Access (Option Ipv4) := do
  let etherType ← f.etherTypeChecked
  if etherType = some EtherType.ipv4 then
    match slice? f.payload 16 20 with
    | none => return none
    | some part =>
      let a ← Access.octet part 0
      let b ← Access.octet part 1
      let c ← Access.octet part 2
      let d ← Access.octet part 3
      return some ⟨a, b, c, d⟩
  else return none

def ipv6DstChecked (f : Frame) : Access (Option Ipv6) := do
  let etherType ← f.etherTypeChecked
  if etherType = some EtherType.ipv6 then return (slice? f.payload 24 40).bind Ipv6.ofOctets?
  else return none

/-- The octets as sent. The tag is written in two halves and put in front of the ether type, or at the
end of a frame that has none. -/
def wireChecked (f : Frame) : Access (List UInt8) := do
  match f.tag with
  | none => return f.data
  | some tag =>
    let half ← Access.copy (List.replicate tagLength 0) 0 2 tag.proto.octets
    let header ← Access.copy half 2 tagLength tag.wordOctets
    Access.splice f.data (min etherTypeOffset f.data.length) header

end Frame

/-! ### No access fails -/

theorem append_of_slice? {bytes part : List UInt8} {start stop : Nat}
    (h : slice? bytes start stop = some part) :
    bytes.drop start = part ++ bytes.drop stop ∧ part.length = stop - start := by
  unfold slice? at h
  split at h
  · rename_i hle
    cases h
    constructor
    · have hrest : bytes.drop stop = (bytes.drop start).drop (stop - start) := by
        rw [List.drop_drop]
        congr 1
        omega
      rw [hrest, List.take_append_drop]
    · rw [List.length_take, List.length_drop]
      omega
  · cases h

theorem length_of_slice?_eq_none {bytes : List UInt8} {start stop : Nat} (hlt : start < stop)
    (h : slice? bytes start stop = none) : (bytes.drop start).length < stop - start := by
  unfold slice? at h
  split at h
  · cases h
  · rw [List.length_drop]
    omega

theorem pair_of_slice? (bytes : List UInt8) (start : Nat) :
    (∃ a b, slice? bytes start (start + 2) = some [a, b] ∧
      bytes.drop start = a :: b :: bytes.drop (start + 2)) ∨
    slice? bytes start (start + 2) = none ∧ (bytes.drop start).length < 2 := by
  cases h : slice? bytes start (start + 2) with
  | none =>
    have hshort := length_of_slice?_eq_none (by omega) h
    exact Or.inr ⟨rfl, by omega⟩
  | some part =>
    obtain ⟨hdrop, hlength⟩ := append_of_slice? h
    match part, (hlength.trans (Nat.add_sub_cancel_left start 2) : part.length = 2) with
    | [a, b], _ => exact Or.inl ⟨a, b, rfl, hdrop⟩

@[simp] theorem Net.Tag.ofOctetsChecked_eq (proto : EtherType) (bytes : List UInt8) :
    Tag.ofOctetsChecked proto bytes = pure (Tag.ofOctets proto bytes) := by
  unfold Tag.ofOctetsChecked
  rcases pair_of_slice? bytes 0 with ⟨a, b, hpart, hdrop⟩ | ⟨hnone, hshort⟩
  · have hbytes : bytes = a :: b :: bytes.drop 2 := hdrop
    rw [hpart, hbytes]
    rfl
  · rw [hnone]
    match bytes, hshort with
    | [], _ => rfl
    | [_], _ => rfl

namespace Frame

@[simp] theorem etherTypeChecked_eq (f : Frame) : f.etherTypeChecked = pure f.etherType? := by
  unfold etherTypeChecked etherType?
  rcases pair_of_slice? f.data etherTypeOffset with ⟨a, b, hpart, hdrop⟩ | ⟨hnone, hshort⟩
  · rw [hpart, hdrop]
    rfl
  · rw [hnone]
    match f.data.drop etherTypeOffset, hshort with
    | [], _ => rfl
    | [_], _ => rfl

theorem length_of_etherType? {f : Frame} {t : EtherType} (h : f.etherType? = some t) :
    14 ≤ f.data.length := by
  unfold etherType? at h
  split at h
  · rename_i hi lo rest hdrop
    have hlength : (f.data.drop 12).length = rest.length + 2 := congrArg List.length hdrop
    rw [List.length_drop] at hlength
    omega
  · cases h

@[simp] theorem untagChecked_eq (f : Frame) (proto : EtherType) :
    f.untagChecked proto = pure (f.untag proto) := by
  unfold untagChecked untag
  rw [etherTypeChecked_eq, pure_bind]
  split
  · rename_i htype
    have hheader := length_of_etherType? htype
    rw [Tag.ofOctetsChecked_eq, pure_bind]
    cases Tag.ofOctets proto f.payload with
    | error e => rfl
    | ok tag =>
      simp only
      split
      · rw [Access.difference, if_pos hheader]
        rfl
      · rename_i hlong
        have hstop : etherTypeOffset + tagLength ≤ f.data.length :=
          Nat.le_trans (by decide) (Nat.le_of_not_lt hlong)
        rw [Access.drain, Access.part_of_le ⟨by decide, hstop⟩]
        rfl
  · rfl

/-- A group address is read from a part of the payload of just its length. -/
theorem slice?_payload (bytes : List UInt8) {start stop : Nat} (hlt : start < stop) {α : Type}
    (read : List UInt8 → Option α) (hread : ∀ part, part.length ≠ stop - start → read part = none) :
    (slice? bytes start stop).bind read = read ((bytes.drop start).take (stop - start)) := by
  cases hpart : slice? bytes start stop with
  | none =>
    have hshort := length_of_slice?_eq_none hlt hpart
    refine (hread _ ?_).symm
    rw [List.length_take]
    omega
  | some part =>
    obtain ⟨hdrop, hlength⟩ := append_of_slice? hpart
    rw [hdrop, ← hlength, List.take_left]
    rfl

theorem ipv4_ofOctets?_of_length_ne {part : List UInt8} (h : part.length ≠ 4) :
    Ipv4.ofOctets? part = none := by
  unfold Ipv4.ofOctets?
  split
  · exact absurd rfl h
  · rfl

theorem ipv6_ofOctets?_of_length_ne {part : List UInt8} (h : part.length ≠ 16) :
    Ipv6.ofOctets? part = none := by
  unfold Ipv6.ofOctets?
  split
  · exact absurd rfl h
  · rfl

@[simp] theorem ipv4DstChecked_eq (f : Frame) : f.ipv4DstChecked = pure f.ipv4Dst? := by
  unfold ipv4DstChecked ipv4Dst?
  rw [etherTypeChecked_eq, pure_bind]
  split
  · have hread := slice?_payload f.payload (by decide : 16 < 20) Ipv4.ofOctets?
      fun part => ipv4_ofOctets?_of_length_ne
    rw [← hread]
    cases hpart : slice? f.payload 16 20 with
    | none => rfl
    | some part =>
      obtain ⟨-, hlength⟩ := append_of_slice? hpart
      match part, hlength with
      | [a, b, c, d], _ => rfl
  · rfl

@[simp] theorem ipv6DstChecked_eq (f : Frame) : f.ipv6DstChecked = pure f.ipv6Dst? := by
  unfold ipv6DstChecked ipv6Dst?
  rw [etherTypeChecked_eq, pure_bind]
  split
  · exact congrArg pure (slice?_payload _ (by decide) Ipv6.ofOctets? fun part =>
      ipv6_ofOctets?_of_length_ne)
  · rfl

@[simp] theorem wireChecked_eq (f : Frame) : f.wireChecked = pure f.wire := by
  unfold wireChecked wire
  cases f.tag with
  | none => rfl
  | some tag =>
    have hhalf : Access.copy (List.replicate tagLength 0) 0 2 tag.proto.octets =
        pure (tag.proto.octets ++ [0, 0]) := rfl
    have hheader : Access.copy (tag.proto.octets ++ [0, 0]) 2 tagLength tag.wordOctets =
        pure tag.octets := rfl
    have hpart : Access.part (min etherTypeOffset f.data.length) (min etherTypeOffset f.data.length)
        f.data.length = pure () := Access.part_of_le ⟨Nat.le_refl _, Nat.min_le_right _ _⟩
    simp only [hhalf, hheader, pure_bind, Access.splice, hpart]
    rcases Nat.le_total etherTypeOffset f.data.length with hle | hle
    · rw [Nat.min_eq_left hle]
    · rw [Nat.min_eq_right hle, List.take_length, List.drop_length, List.take_of_length_le hle,
        List.drop_eq_nil_of_le hle]

end Frame

end VlanBridge
