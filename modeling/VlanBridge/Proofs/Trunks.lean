import VlanBridge.Proofs.Admissions
import VlanBridge.Proofs.InBandTags
/-!
# Trunks

Two bridges with the same tags agree about a frame that goes from one to the other through a tagged
member: the second one puts it into the VLAN that it had at the first one, whichever port it comes in by
there, and finds the same octets, priority and drop-eligible flag (`classify_sent`).
-/

namespace VlanBridge

open VlanBridge.Net

theorem Frame.untag_eq_some {f g : Frame} {proto : EtherType} (h : f.untag proto = .ok (some g)) :
    18 ≤ f.data.length ∧ g.data = dropTag f.data := by
  unfold untag at h
  split at h
  · split at h
    · cases h
    · split at h
      · cases h
      · rename_i hlong
        cases h
        exact ⟨Nat.not_lt.1 hlong, rfl⟩
  · cases h

theorem VlanDb.normalizeTag_data {f g : Frame} {proto : EtherType}
    (h : normalizeTag proto f = .ok g) :
    g.data = f.data ∨ 18 ≤ f.data.length ∧ g.data = Frame.dropTag f.data := by
  unfold normalizeTag at h
  split at h
  · cases h
    exact Or.inl rfl
  · split at h
    · cases h
    · rename_i huntag
      cases h
      exact Or.inr (Frame.untag_eq_some huntag)
    · cases h
      exact Or.inl rfl

/-- A classified frame still has a full header. -/
theorem VlanDb.length_of_classify {db : VlanDb} {p : Port} {f g : Frame} {proto : EtherType}
    {c : Classification} (hheader : f.hasHeader = true) (h : db.classify p f proto = .ok (c, g)) :
    14 ≤ g.data.length := by
  have hlength := Frame.hasHeader_iff.1 hheader
  unfold classify at h
  split at h
  · cases h
  · rename_i hnormal
    cases h
    rcases normalizeTag_data hnormal with hsame | ⟨hlong, hdrop⟩
    · rw [hsame]
      exact hlength
    · have htake : (f.data.take 12).length = 12 := by
        rw [List.length_take]
        omega
      rw [hdrop, Frame.dropTag, List.length_append, List.length_drop]
      simp only [Frame.etherTypeOffset, Frame.tagLength, htake]
      omega

/-- A frame that arrives with a tag of a VLAN among its octets is classified to that VLAN. -/
theorem VlanDb.classify_tagged (db : VlanDb) (q : Port) {data : List UInt8}
    (hdata : 14 ≤ data.length) {t : Tag} (ht : t.vid ≠ Vid.zero) :
    ∃ k, db.classify q { data := Frame.wire { data, tag := some t } } t.proto =
      .ok (k, { data, tag := some t.arrived }) ∧ k.vid = t.vid := by
  have hvid : effectiveVid q (some t.arrived) = t.vid := by
    have hzero : t.arrived.isPriorityOnly = false := by
      rw [← Bool.not_eq_true]
      exact mt Vid.isZero_iff.1 ht
    unfold effectiveVid
    simp only [hzero, Bool.false_eq_true, if_false]
    rfl
  unfold classify
  rw [normalizeTag_wire hdata]
  exact ⟨_, rfl, hvid⟩

namespace Bridge

variable {a b : Bridge}

/-- A frame that one bridge sends has been classified there. If it is sent to a tagged member of its
VLAN, and that is not VLAN 0, another bridge with the same tags classifies it at any port to the same
VLAN, with the octets it was classified with before and the three bits of priority and the flag that it
had then. -/
theorem classify_sent (ha : a.Reachable) (hproto : b.config.vlanProtocol = a.config.vlanProtocol)
    {h : Handle} {f : Frame} {e : Emission} (he : e ∈ (a.receive h f).2.sent) :
    ∃ p c g v, a.classified? h f = some (p, c, g) ∧ a.vlans.vlan? c.vid = some v ∧
      (e.port ∈ v.tagged → c.vid ≠ Vid.zero → ∀ q : Port, ∃ k tag,
        b.vlans.classify q { data := e.frame.wire } b.config.vlanProtocol =
          .ok (k, { data := g.data, tag := some tag }) ∧
        k.vid = c.vid ∧ tag.vid = c.vid ∧
        tag.priority.toNat = (g.tag.map (·.priority.toNat)).getD 0 % 8 ∧
        tag.dropEligible = (g.tag.map (·.dropEligible)).getD false) := by
  obtain ⟨p, c, g, r, hc, hfind, hframe⟩ := exists_classified_of_mem_sent ha.sound he
  have hv : a.vlans.vlan? c.vid = some r.vlan := by
    unfold VlanDb.vlan?
    rw [hfind]
    rfl
  refine ⟨p, c, g, r.vlan, hc, hv, ?_⟩
  intro htagged hvid q
  obtain ⟨-, -, hheader, hclassify⟩ := classified?_eq_some_iff.1 hc
  have hdata := VlanDb.length_of_classify hheader hclassify
  rw [if_pos htagged] at hframe
  let sent : Tag := {
    proto := a.config.vlanProtocol
    priority := (g.tag.map (·.priority)).getD 0
    dropEligible := (g.tag.map (·.dropEligible)).getD false
    vid := c.vid }
  obtain ⟨k, hk, hkvid⟩ := b.vlans.classify_tagged q hdata (t := sent) hvid
  refine ⟨k, sent.arrived, ?_, hkvid, rfl, ?_, rfl⟩
  · rw [hproto, hframe]
    exact hk
  · rw [Tag.priority_arrived]
    simp only [sent]
    cases g.tag <;> rfl

/-- A frame comes in with a service tag of VLAN 7 and priority 13, goes on under a customer tag, and
arrives at the next bridge in VLAN 7 with priority 5. -/
theorem classify_sent_service_tag :
    let seven : Vid := ⟨7, Nat.le_of_ble_eq_true rfl⟩
    let a := (beside ["eth0", "eth1"]).run [.request (.portAdd "eth0" {}),
      .request (.portAdd "eth1" {}), .request (.vlanAdd seven),
      .request (.vlanAttach seven "eth0" false), .request (.vlanAttach seven "eth1" true)]
    let b := (beside ["eth0"]).run [.request (.portAdd "eth0" {})]
    let data := (Frame.ethernet Mac.broadcast ⟨2, 0, 0, 0, 0, 9⟩ EtherType.ipv4 []).data
    let f : Frame := { data, tag := some ⟨EtherType.dot1ad, 13, true, seven⟩ }
    ∃ e ∈ (a.receive ⟨1, 1⟩ f).2.sent, e.port = 2 ∧ ∀ q : Port, ∃ k tag,
      b.vlans.classify q { data := e.frame.wire } b.config.vlanProtocol =
        .ok (k, { data, tag := some tag }) ∧
      k.vid = seven ∧ tag.vid = seven ∧ tag.priority.toNat = 5 ∧ tag.dropEligible = true := by
  intro seven a b data f
  have ha : a.Reachable := (reachable_beside _).run _
  have hproto : b.config.vlanProtocol = a.config.vlanProtocol := by decide +kernel
  have hports : (a.receive ⟨1, 1⟩ f).2.sent.map (·.port) = [2] := by decide +kernel
  have hclassified : (a.classified? ⟨1, 1⟩ f).map (fun x => (x.2.1.vid, x.2.2)) =
      some (seven, { data, tag := some ⟨EtherType.dot1q, 13, true, seven⟩ }) := by decide +kernel
  have htagged : (a.vlans.vlan? seven).map (fun v => decide (2 ∈ v.tagged)) = some true := by
    decide +kernel
  have hmem : (2 : PortIndex) ∈ (a.receive ⟨1, 1⟩ f).2.sent.map (·.port) := by
    rw [hports]
    exact List.mem_singleton.2 rfl
  obtain ⟨e, he, hport⟩ := List.mem_map.1 hmem
  obtain ⟨p, c, g, v, hc, hv, hall⟩ := classify_sent ha hproto he
  rw [hc] at hclassified
  obtain ⟨hvid, rfl⟩ := Prod.mk.inj (Option.some.inj hclassified)
  simp only at hvid
  rw [hvid] at hv hall
  rw [hv] at htagged
  have hin : e.port ∈ v.tagged := by
    rw [hport]
    exact of_decide_eq_true (Option.some.inj htagged)
  refine ⟨e, he, hport, ?_⟩
  intro q
  obtain ⟨k, tag, hk, hkvid, htag, hpriority, hdrop⟩ := hall hin (by decide) q
  exact ⟨k, tag, hk, hkvid, htag, hpriority.trans (by decide), hdrop⟩

end Bridge

end VlanBridge
