import VlanBridge.Bridge.Observer
import VlanBridge.Proofs.Events
/-!
# A tag beside the octets and a tag among them

A device may take the tag out of a frame before the bridge gets it, or leave it among the octets. Reading
gives back the tag that was written into the octets, but that only three bits of a priority are written
(`untag_wire`). So a bridge cannot tell the two kinds of frame apart (`receive_wire`), whoever observes
it: it drops, traps or sends both in the same way, and learns and counts the same.
-/

namespace VlanBridge

open VlanBridge.Net

namespace Net.Tag

/-- The tag as it arrives: with the three bits of its priority that are sent. -/
def arrived (t : Tag) : Tag := { t with priority := UInt8.ofNat (t.priority.toNat % 8) }

theorem arrived_of_lt {t : Tag} (h : t.priority.toNat < 8) : t.arrived = t := by
  unfold arrived
  rw [Nat.mod_eq_of_lt h, UInt8.ofNat_toNat]

theorem priority_arrived (t : Tag) : t.arrived.priority.toNat = t.priority.toNat % 8 := by
  have hlt : t.priority.toNat % 8 < 8 := Nat.mod_lt _ (by omega)
  have hbyte : t.priority.toNat % 8 < 256 := by omega
  unfold arrived
  rw [UInt8.toNat_ofNat', Nat.mod_eq_of_lt hbyte]

/-- A control word reads back as the tag that arrives. -/
theorem ofOctets_arrived (t : Tag) (rest : List UInt8) :
    ofOctets t.proto (t.wordOctets ++ rest) = .ok t.arrived := by
  have hpriority := t.priority_arrived
  have hlow : t.arrived.priority.toNat < 8 := by omega
  have hword : t.arrived.word = t.word := by
    unfold word
    rw [hpriority, Nat.mod_mod]
    rfl
  have hread := ofWord_word t.arrived hlow
  rw [hword] at hread
  rw [ofOctets_wordOctets]
  exact hread

end Net.Tag

namespace Frame

variable {data : List UInt8} {t : Tag}

theorem take_wire (hdata : 14 ≤ data.length) :
    (wire { data, tag := some t }).take 12 = data.take 12 := by
  have htake : (data.take 12).length = 12 := by
    rw [List.length_take]
    omega
  simp only [wire, etherTypeOffset, List.append_assoc]
  exact List.take_left' htake

theorem drop_wire (hdata : 14 ≤ data.length) :
    (wire { data, tag := some t }).drop 12 = t.octets ++ data.drop 12 := by
  have htake : (data.take 12).length = 12 := by
    rw [List.length_take]
    omega
  simp only [wire, etherTypeOffset, List.append_assoc]
  exact List.drop_left' htake

theorem etherType?_wire (hdata : 14 ≤ data.length) :
    etherType? { data := wire { data, tag := some t } } = some t.proto := by
  simp only [etherType?, etherTypeOffset, drop_wire hdata, Tag.octets, EtherType.octets,
    List.cons_append, EtherType.ofOctets_octets]

theorem payload_wire (hdata : 14 ≤ data.length) :
    payload { data := wire { data, tag := some t } } = t.wordOctets ++ data.drop 12 := by
  have hsplit : (wire { data, tag := some t }).drop 14 =
      ((wire { data, tag := some t }).drop 12).drop 2 := by
    rw [List.drop_drop]
  unfold payload headerLength
  rw [hsplit, drop_wire hdata]
  rfl

theorem dropTag_wire (hdata : 14 ≤ data.length) : dropTag (wire { data, tag := some t }) = data := by
  have hsplit : (wire { data, tag := some t }).drop 16 =
      ((wire { data, tag := some t }).drop 12).drop 4 := by
    rw [List.drop_drop]
  have hrest : (t.octets ++ data.drop 12).drop 4 = data.drop 12 := rfl
  unfold dropTag etherTypeOffset tagLength
  rw [take_wire hdata, hsplit, drop_wire hdata, hrest, List.take_append_drop]

/-- Taking the tag out of the octets that are sent gives the frame, with the tag as it arrives. -/
theorem untag_wire (hdata : 14 ≤ data.length) :
    untag { data := wire { data, tag := some t } } t.proto =
      .ok (some { data, tag := some t.arrived }) := by
  have hlength : ¬ (wire { data, tag := some t }).length < 18 := by
    have hl := wire_length { data, tag := some t }
    simp only [Option.isSome_some, if_true, tagLength] at hl
    omega
  unfold untag
  rw [if_pos (etherType?_wire hdata), payload_wire hdata, Tag.ofOctets_arrived]
  simp only [headerLength, tagLength, hlength, if_false, dropTag_wire hdata]

theorem hasHeader_wire (hdata : 14 ≤ data.length) :
    hasHeader { data := wire { data, tag := some t } } = true := by
  have hl := wire_length { data, tag := some t }
  rw [hasHeader_iff]
  show 14 ≤ (wire { data, tag := some t }).length
  simp only at hl
  omega

/-- The addresses stand in front of the tag. -/
theorem addresses_wire (hdata : 14 ≤ data.length) :
    dst? { data := wire { data, tag := some t } } = dst? { data, tag := some t } ∧
      src? { data := wire { data, tag := some t } } = src? { data, tag := some t } := by
  match data, hdata with
  | _ :: _ :: _ :: _ :: _ :: _ :: _ :: _ :: _ :: _ :: _ :: _ :: _, _ => exact ⟨rfl, rfl⟩

end Frame

namespace VlanDb

theorem normalizeTag_wire {data : List UInt8} (hdata : 14 ≤ data.length) (t : Tag) :
    normalizeTag t.proto { data := Frame.wire { data, tag := some t } } =
      .ok { data, tag := some t.arrived } := by
  unfold normalizeTag
  rw [Frame.untag_wire hdata]

theorem classify_wire (db : VlanDb) (p : Port) {data : List UInt8} (hdata : 14 ≤ data.length) {t : Tag}
    (hpriority : t.priority.toNat < 8) :
    db.classify p { data := Frame.wire { data, tag := some t } } t.proto =
      db.classify p { data, tag := some t } t.proto := by
  have hbeside : normalizeTag t.proto { data, tag := some t } = .ok { data, tag := some t } := rfl
  have hamong := normalizeTag_wire hdata t
  rw [Tag.arrived_of_lt hpriority] at hamong
  unfold classify
  rw [hbeside, hamong]

end VlanDb

namespace Bridge

variable {b : Bridge} {data : List UInt8} {t : Tag}

theorem assess_wire (hdata : 14 ≤ data.length) (hproto : t.proto = b.config.vlanProtocol)
    (hpriority : t.priority.toNat < 8) (h : Handle) :
    b.assess h { data := Frame.wire { data, tag := some t } } = b.assess h { data, tag := some t } := by
  have hheader : Frame.hasHeader { data, tag := some t } = true := Frame.hasHeader_iff.2 hdata
  have hheader' := Frame.hasHeader_wire (t := t) hdata
  obtain ⟨hdst, hsrc⟩ := Frame.addresses_wire (t := t) hdata
  have hclassify := fun p => b.vlans.classify_wire p hdata hpriority
  unfold assess assessFrom
  rw [hheader, hheader', hdst, hsrc, ← hproto]
  simp only [hclassify]

/-- A frame has the same fate with its tag beside the octets and among them: it ends the same way, goes
to the trap or to the same ports in the same form, and leaves the same bridge. That is so under every
observer as well, whatever it does while the frame is on its way. -/
theorem receive_wire (hdata : 14 ≤ data.length) (hproto : t.proto = b.config.vlanProtocol)
    (hpriority : t.priority.toNat < 8) (h : Handle) :
    let offloaded : Frame := { data, tag := some t }
    let inBand : Frame := { data := offloaded.wire }
    b.receive h offloaded = b.receive h inBand ∧
      ∀ {σ : Type} (o : Observer σ) (s : σ), o.bridge s = b →
        o.receiveIn s h offloaded = o.receiveIn s h inBand := by
  intro offloaded inBand
  have hassess : b.enter.1.assess h inBand = b.enter.1.assess h offloaded :=
    assess_wire (b := b.enter.1) hdata hproto hpriority h
  refine ⟨?_, ?_⟩
  · unfold receive
    simp only [hassess]
  · intro σ o s hs
    unfold Observer.receiveIn
    simp only [hs, hassess]

/-- A frame with two tags, of which the outer one has a priority and no VLAN, comes in by a port whose
frames go to VLAN 7; there it meets the local port, which is sent the tag of that VLAN. -/
theorem receive_wire_two_tags :
    let seven : Vid := ⟨7, Nat.le_of_ble_eq_true rfl⟩
    let b := (beside ["eth0"]).run [.request (.portAdd "eth0" {}), .request (.vlanAdd seven),
      .request (.vlanAttach seven "eth0" false), .request (.vlanAttach seven "ubr0" true),
      .request (.portSetPvid "eth0" seven)]
    let inner := (Frame.ethernet Mac.broadcast ⟨2, 0, 0, 0, 0, 9⟩ EtherType.dot1q [0, 5, 8, 0]).data
    let outer : Tag := ⟨EtherType.dot1q, 6, true, Vid.zero⟩
    b.receive ⟨1, 1⟩ { data := inner, tag := some outer } =
      b.receive ⟨1, 1⟩ { data := Frame.wire { data := inner, tag := some outer } } ∧
    (b.receive ⟨1, 1⟩ { data := inner, tag := some outer }).2.sent.map (fun e => (e.port, e.frame)) =
      [(0, { data := inner, tag := some ⟨EtherType.dot1q, 6, true, seven⟩ })] := by
  intro seven b inner outer
  have hdata : 14 ≤ inner.length := by decide
  have hproto : outer.proto = b.config.vlanProtocol := by decide +kernel
  have hpriority : outer.priority.toNat < 8 := by decide
  obtain ⟨hsame, -⟩ := receive_wire hdata hproto hpriority ⟨1, 1⟩
  exact ⟨hsame, by decide +kernel⟩

end Bridge

end VlanBridge
