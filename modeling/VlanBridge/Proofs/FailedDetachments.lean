import VlanBridge.Proofs.Renewals
/-!
# Taking a port out of a VLAN that it is no member of

Frames can be flooded to a port that is no member of the VLAN, and multicast routers may sit behind one
(`HasPolicy`). Taking such a port out of the VLAN fails, since there is no membership to end; but it
leaves all sets of the VLAN before its membership is looked at. So the failure is not without effect: the
port's policy in this one VLAN is lost (`vlanDetach_failed`), and nothing else. Every other operation looks
before it changes anything.
-/

namespace VlanBridge

open VlanBridge.Net

namespace Vlan

variable {v : Vlan} {i : PortIndex}

/-- Frames are flooded to a port, or a multicast router is behind it. -/
def HasPolicy (v : Vlan) (i : PortIndex) : Prop := (∃ c, i ∈ v.flood c) ∨ i ∈ v.routers

/-- The VLAN with frames flooded to a port no more and no router behind it. -/
def withoutPolicy (v : Vlan) (i : PortIndex) : Vlan :=
  { v with
    unicastFlood := v.unicastFlood.erase i
    multicastFlood := v.multicastFlood.erase i
    broadcastFlood := v.broadcastFlood.erase i
    routers := v.routers.erase i }

instance (v : Vlan) (i : PortIndex) : Decidable (v.HasPolicy i) :=
  decidable_of_iff
    ((i ∈ v.unicastFlood ∨ i ∈ v.multicastFlood ∨ i ∈ v.broadcastFlood) ∨ i ∈ v.routers)
    (or_congr_left
      ⟨fun h => h.elim (⟨.unicast, ·⟩) (·.elim (⟨.multicast, ·⟩) (⟨.broadcast, ·⟩)), fun
        | ⟨.unicast, h⟩ => Or.inl h
        | ⟨.multicast, h⟩ => Or.inr (Or.inl h)
        | ⟨.broadcast, h⟩ => Or.inr (Or.inr h)⟩)

theorem HasPolicy.mentions (h : v.HasPolicy i) : v.Mentions i := Or.inr (Or.inr h)

theorem vid_withoutPolicy (v : Vlan) (i : PortIndex) : (v.withoutPolicy i).vid = v.vid := rfl

theorem flood_withoutPolicy (v : Vlan) (i : PortIndex) (c : FloodClass) :
    (v.withoutPolicy i).flood c = (v.flood c).erase i := by
  cases c <;> rfl

theorem not_hasPolicy_withoutPolicy (v : Vlan) (i : PortIndex) :
    ¬ (v.withoutPolicy i).HasPolicy i := by
  rintro (⟨c, h⟩ | h)
  · rw [flood_withoutPolicy] at h
    exact (PortSet.mem_erase.1 h).1 rfl
  · exact (PortSet.mem_erase.1 h).1 rfl

theorem withoutPolicy_eq_self_iff : v.withoutPolicy i = v ↔ ¬ v.HasPolicy i := by
  constructor
  · intro h
    rw [← h]
    exact not_hasPolicy_withoutPolicy v i
  · intro h
    obtain ⟨hflood, hrouter⟩ : (∀ c, i ∉ v.flood c) ∧ i ∉ v.routers := by
      simpa only [HasPolicy, not_or, not_exists] using h
    have hunicast : i ∉ v.unicastFlood := hflood .unicast
    have hmulticast : i ∉ v.multicastFlood := hflood .multicast
    have hbroadcast : i ∉ v.broadcastFlood := hflood .broadcast
    unfold withoutPolicy
    rw [PortSet.erase_of_not_mem hunicast, PortSet.erase_of_not_mem hmulticast,
      PortSet.erase_of_not_mem hbroadcast, PortSet.erase_of_not_mem hrouter]

/-- A port that is no member has nothing but its policy to lose. -/
theorem detach_eq_withoutPolicy (htags : v.TagsMembers) (hout : i ∉ v.members) :
    v.detach i = v.withoutPolicy i := by
  unfold detach withoutPolicy
  rw [PortSet.erase_of_not_mem hout, PortSet.erase_of_not_mem (mt (htags i) hout)]

end Vlan

namespace VlanDb

variable {db : VlanDb} {vid : Vid} {i : PortIndex}

theorem modify_congr {f g : Vlan → Vlan} (h : ∀ v, db.vlan? vid = some v → f v = g v)
    (hd : db.Tidy) : db.modify vid f = db.modify vid g := by
  unfold modify
  congr 1
  refine List.map_congr_left fun r hr => ?_
  split
  · rename_i hvid
    have hfind : db.vlan? vid = some r.vlan :=
      congrArg (Option.map VlanRecord.vlan) (hd.find?_eq_some_iff.2 ⟨hr, hvid⟩)
    rw [h r.vlan hfind]
  · rfl

theorem modify_eq_self_iff {f : Vlan → Vlan} (hf : ∀ v, (f v).vid = v.vid) (hd : db.Tidy) :
    db.modify vid f = db ↔ ∀ v, db.vlan? vid = some v → f v = v := by
  constructor
  · intro h v hv
    have hafter : (db.modify vid f).vlan? vid = some (f v) := by
      rw [vlan?_modify db vid vid f hf, if_pos rfl, hv]
      rfl
    rw [h, hv] at hafter
    exact (Option.some.inj hafter).symm
  · intro h
    have hid : db.modify vid id = db := by
      unfold modify
      simp only [id_eq, ite_self, List.map_id']
    exact (modify_congr h hd).trans hid

/-- A port that cannot be taken out of a VLAN loses its policy there, if there is such a VLAN. -/
theorem detach_failed (hd : db.Tidy) {e : BridgeError} (he : (db.detach vid i).2 = .error e) :
    (db.detach vid i).1 = db.modify vid (·.withoutPolicy i) := by
  unfold detach require at he ⊢
  cases hv : db.vlan? vid with
  | none =>
    refine ((modify_eq_self_iff (·.vid_withoutPolicy i) hd).2 fun v h => ?_).symm
    rw [hv] at h
    cases h
  | some v =>
    simp only [hv] at he ⊢
    have hout : i ∉ v.members := by
      intro hin
      rw [if_pos hin] at he
      cases he
    refine modify_congr (fun w hw => ?_) hd
    cases hv.symm.trans hw
    obtain ⟨r, hr, rfl⟩ := Option.map_eq_some_iff.1 hv
    exact Vlan.detach_eq_withoutPolicy (hd.tags r (mem_of_find? hr)) hout

end VlanDb

namespace Bridge

variable {b : Bridge}

theorem answer_eq_error {α β : Type} {o : Outcome α} {form : α → β} {e : BridgeError}
    (h : (answer o form).2 = .error e) : o.2 = .error e := by
  unfold answer at h
  cases ho : o.2 with
  | error e' =>
    rw [ho] at h
    exact congrArg Except.error (Except.error.inj h)
  | ok a =>
    rw [ho] at h
    cases h

/-- An operation that fails to take a port out of a VLAN takes the port's policy there. -/
theorem Reachable.vlanDetach_failed (hb : b.Reachable) {vid : Vid} {i : PortIndex} {e : BridgeError}
    (he : (b.vlanDetach vid i.val).2 = .error e) :
    (b.vlanDetach vid i.val).1 = { b with vlans := b.vlans.modify vid (·.withoutPolicy i) } := by
  obtain ⟨hs, hi⟩ := hb.sound_integrity
  unfold vlanDetach at he ⊢
  cases hp : b.ports.require i.val with
  | error e' =>
    -- no VLAN mentions a port that is not there
    have hnone : ¬ b.ports.Holds i := by
      intro hheld
      obtain ⟨p, hport⟩ := PortTable.holds_iff.1 hheld
      simp only [PortTable.require, PortTable.get?_val, hport] at hp
      cases hp
    have hsame : b.vlans.modify vid (·.withoutPolicy i) = b.vlans := by
      refine (VlanDb.modify_eq_self_iff (·.vid_withoutPolicy i) hb.tidy).2 fun v hv => ?_
      obtain ⟨r, hr, rfl⟩ := Option.map_eq_some_iff.1 hv
      exact Vlan.withoutPolicy_eq_self_iff.2 fun h =>
        hnone (hi.vlanPorts r (VlanDb.mem_of_find? hr) i h.mentions)
    rw [hsame]
  | ok p =>
    obtain ⟨j, hj, hport⟩ := PortTable.require_eq_ok hp
    have hindex : p.index = i := (hs.ports.index j p hport).trans (Fin.ext hj)
    simp only [hp, hindex] at he ⊢
    exact congrArg (fun vlans => { b with vlans }) (VlanDb.detach_failed hb.tidy he)

/-- The VLANs survive the failure just if the port has no policy in the VLAN. -/
theorem Reachable.vlans_vlanDetach_failed_iff (hb : b.Reachable) {vid : Vid} {i : PortIndex}
    {e : BridgeError} (he : (b.vlanDetach vid i.val).2 = .error e) :
    (b.vlanDetach vid i.val).1.vlans = b.vlans ↔
      ∀ v, b.vlans.vlan? vid = some v → ¬ v.HasPolicy i := by
  rw [hb.vlanDetach_failed he]
  refine (VlanDb.modify_eq_self_iff (·.vid_withoutPolicy i) hb.tidy).trans ?_
  exact forall₂_congr fun v _ => Vlan.withoutPolicy_eq_self_iff

theorem vlanDetach_of_maxPorts_le {n : Nat} (hn : maxPorts ≤ n) (vid : Vid) :
    (b.vlanDetach vid n).1 = b := by
  have hunknown : b.ports.require n = .error (.unknownPort n) := by
    simp only [PortTable.require, PortTable.get?, PortIndex.ofNat?_eq_none.2 hn, Option.bind_none]
  unfold vlanDetach
  rw [hunknown]

theorem handle_vlanDetach {name : String} {i : PortIndex} (hname : b.portIndex name = .ok i)
    (vid : Vid) :
    b.handle (.vlanDetach vid name) = answer (b.vlanDetach vid i.val) fun _ => .done := by
  simp only [handle, onPort, hname]

theorem handle_vlanDetach_of_unknown {name : String} {e : BridgeError}
    (hname : b.portIndex name = .error e) (vid : Vid) :
    (b.handle (.vlanDetach vid name)).1 = b := by
  simp only [handle, onPort, hname]

/-- An operation or a request that fails to take a port out of a VLAN leaves the VLANs as they were if and
only if the port has no policy in this VLAN. Otherwise the VLAN loses the policy, and nothing else. -/
theorem failed_detach_keeps_iff (hb : b.Reachable) (vid : Vid) :
    (∀ n e, (b.vlanDetach vid n).2 = .error e →
      ((b.vlanDetach vid n).1.vlans = b.vlans ↔
        ∀ v i, b.vlans.vlan? vid = some v → i.val = n → ¬ v.HasPolicy i)) ∧
    (∀ name e, (b.handle (.vlanDetach vid name)).2 = .error e →
      ((b.handle (.vlanDetach vid name)).1.vlans = b.vlans ↔
        ∀ v i, b.vlans.vlan? vid = some v → b.portIndex name = .ok i → ¬ v.HasPolicy i)) ∧
    ∀ i e, (b.vlanDetach vid i.val).2 = .error e →
      (b.vlanDetach vid i.val).1 = { b with vlans := b.vlans.modify vid (·.withoutPolicy i) } := by
  refine ⟨fun n e he => ?_, fun name e he => ?_, fun i e he => hb.vlanDetach_failed he⟩
  · by_cases hn : n < maxPorts
    · obtain ⟨i, rfl⟩ : ∃ i : PortIndex, i.val = n := ⟨⟨n, hn⟩, rfl⟩
      rw [hb.vlans_vlanDetach_failed_iff he]
      constructor
      · rintro h v j hv hj
        rw [Fin.ext hj]
        exact h v hv
      · exact fun h v hv => h v i hv rfl
    · have hsame : (b.vlanDetach vid n).1 = b :=
        vlanDetach_of_maxPorts_le (Nat.le_of_not_lt hn) vid
      refine iff_of_true (congrArg Bridge.vlans hsame) ?_
      rintro v i - rfl
      exact absurd i.isLt hn
  · cases hname : b.portIndex name with
    | error e' =>
      have hsame : (b.handle (.vlanDetach vid name)).1 = b := handle_vlanDetach_of_unknown hname vid
      refine iff_of_true (congrArg Bridge.vlans hsame) ?_
      rintro v i - h
      cases h
    | ok i =>
      rw [handle_vlanDetach hname] at he ⊢
      show (b.vlanDetach vid i.val).1.vlans = b.vlans ↔ _
      rw [hb.vlans_vlanDetach_failed_iff (answer_eq_error he)]
      constructor
      · rintro h v j hv hj
        cases hj
        exact h v hv
      · exact fun h v hv => h v i hv rfl

/-- The port has left VLAN 0 for good, and nothing is flooded to it there. Leaving once more fails and
changes nothing. -/
theorem failed_detach_keeps_left :
    let b := (beside ["eth0"]).run [.request (.portAdd "eth0" {}), .request (.vlanDetach Vid.zero "eth0")]
    b.Reachable ∧ (b.vlanDetach Vid.zero 1).2 = .error (.notMember 1 Vid.zero) ∧
      (b.vlanDetach Vid.zero 1).1.vlans = b.vlans ∧
      (b.handle (.vlanDetach Vid.zero "eth0")).2 = .error (.notMember 1 Vid.zero) ∧
      (b.handle (.vlanDetach Vid.zero "eth0")).1.vlans = b.vlans := by
  intro b
  have hb : b.Reachable := (reachable_beside _).run _
  have hfail : (b.vlanDetach Vid.zero 1).2 = .error (.notMember 1 Vid.zero) := by decide +kernel
  have hrefused : (b.handle (.vlanDetach Vid.zero "eth0")).2 = .error (.notMember 1 Vid.zero) := by
    decide +kernel
  have hindex : b.portIndex "eth0" = .ok 1 := by decide +kernel
  have hnone : (b.vlans.vlan? Vid.zero).all (fun v => ¬ v.HasPolicy 1) = true := by decide +kernel
  have hpolicy : ∀ v, b.vlans.vlan? Vid.zero = some v → ¬ v.HasPolicy 1 := by
    intro v hv
    rw [hv] at hnone
    exact of_decide_eq_true hnone
  obtain ⟨hoperation, hrequest, -⟩ := failed_detach_keeps_iff hb Vid.zero
  refine ⟨hb, hfail, (hoperation 1 _ hfail).2 fun v i hv hi => ?_, hrefused,
    (hrequest "eth0" _ hrefused).2 fun v i hv hi => ?_⟩
  · rw [show i = 1 from Fin.ext hi]
    exact hpolicy v hv
  · cases hindex.symm.trans hi
    exact hpolicy v hv

/-- Broadcasts are flooded to a port that has left VLAN 0. Taking it out once more fails, and broadcasts
are flooded to it no more. -/
theorem failed_detach_loses_flooding :
    let b := (beside ["eth0"]).run [.request (.portAdd "eth0" {}),
      .request (.vlanDetach Vid.zero "eth0"),
      .request (.vlanSetFlood Vid.zero "eth0" .broadcast true)]
    b.Reachable ∧
      (b.vlans.vlan? Vid.zero).map (·.broadcastFlood.toNats) = some [0, 1] ∧
      (b.vlanDetach Vid.zero 1).2 = .error (.notMember 1 Vid.zero) ∧
      ((b.vlanDetach Vid.zero 1).1.vlans.vlan? Vid.zero).map (·.broadcastFlood.toNats) = some [0] ∧
      (b.vlanDetach Vid.zero 1).1.vlans ≠ b.vlans ∧
      (b.handle (.vlanDetach Vid.zero "eth0")).2 = .error (.notMember 1 Vid.zero) ∧
      (b.handle (.vlanDetach Vid.zero "eth0")).1.vlans ≠ b.vlans := by
  refine ⟨(reachable_beside _).run _, ?_, ?_, ?_, ?_, ?_, ?_⟩ <;> decide +kernel

end Bridge

end VlanBridge
