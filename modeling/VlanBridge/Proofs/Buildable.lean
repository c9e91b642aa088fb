import VlanBridge.Simulation
import VlanBridge.Proofs.Furnishings
/-!
# Which scenarios can be built

A valid scenario names only ports and VLANs that its topology has. The bridge asks for more: a port and a
VLAN are added once only, the local port has a name already and VLAN 0 is there from the start, and the
table has room for so many ports. The devices of a simulation are otherwise fit to be ports, so these are
all the reasons for which a request of a valid scenario can fail.
-/

namespace VlanBridge

open VlanBridge.Net

/-! ### The devices of a simulation -/

namespace Network

variable {net : Network} {name : String}

/-- Registering a device that may become a port puts it on offer, and keeps the offers there are. -/
theorem Offers.addRegistered {d : Device} (hd : d.Admissible d.name)
    (h : net.Offers name ∨ name = d.name) : (net.addRegistered d).1.Offers name := by
  have hlookup := lookup_register (net.addDevice d).1 d.name name net.devices.size
  by_cases hname : name = d.name
  · subst hname
    rw [if_pos rfl] at hlookup
    exact ⟨_, d, hlookup, Array.getElem?_push_size, hd⟩
  · obtain ⟨id, e, hid, he, hadmissible⟩ := h.resolve_right hname
    rw [if_neg hname] at hlookup
    obtain ⟨hlt, -⟩ := Array.getElem?_eq_some_iff.1 he
    refine ⟨id, e, hlookup.trans hid, ?_, hadmissible⟩
    show (net.devices.push d)[id]? = some e
    rw [Array.getElem?_push_lt hlt]
    exact (Array.getElem?_eq_getElem hlt).symm.trans he

theorem Offers.addAllRegistered {ds : List Device} (hds : ∀ d ∈ ds, d.Admissible d.name)
    (h : net.Offers name ∨ name ∈ ds.map (·.name)) :
    (ds.foldl (fun net d => (net.addRegistered d).1) net).Offers name := by
  induction ds generalizing net with
  | nil => exact h.resolve_right List.not_mem_nil
  | cons d ds ih =>
    refine ih (fun e he => hds e (List.mem_cons_of_mem _ he)) ?_
    rw [List.map_cons, List.mem_cons, ← or_assoc] at h
    exact h.imp_left (Offers.addRegistered (hds d List.mem_cons_self))

end Network

namespace Simulation

theorem isStation_deviceMac (n : Nat) : (deviceMac n).isStation = true := by
  have hgroup : (deviceMac n).isGroup = false := by
    show ((0x02 : UInt8) &&& 1 != 0) = false
    decide
  have hzero : (deviceMac n).isZero = false := by
    refine beq_false_of_ne fun h => ?_
    have hfirst : (0x02 : UInt8) = 0 := congrArg Mac.o0 h
    exact absurd hfirst (by decide)
  unfold Mac.isStation
  rw [hgroup, hzero]
  rfl

/-- Every port of a topology is a device that may become one. -/
theorem offers_network (t : Topology) {name : String} (h : name ∈ t.ports) :
    (network t).Offers name := by
  refine Network.Offers.addAllRegistered ?_ (Or.inr ?_)
  · intro d hd
    obtain ⟨p, -, rfl⟩ := List.mem_map.1 hd
    exact ⟨rfl, rfl, isStation_deviceMac _, rfl, rfl, rfl⟩
  · have hnames : (devices t.ports).map (·.name) = t.ports := by
      unfold devices
      rw [List.map_map]
      exact List.zipIdx_map_fst 1 t.ports
    rw [hnames]
    exact h

end Simulation

/-! ### Requests that were done -/

namespace Bridge

variable {b c : Bridge} {net : Network}

/-- A device that has become a port did so in the slot after the last, and its name was new. -/
theorem Filled.of_portAdd {k : Nat} (hfilled : b.Filled k) (hb : b.Reachable)
    (hf : b.Furnished net) {name : String} (hoffer : net.Offers name) {a : Response}
    (h : b.handle (.portAdd name {}) = (c, .ok a)) :
    k < maxPorts ∧ ¬ b.HasPort name ∧ b.GainsPort c k name := by
  obtain ⟨i, id, d, e, hfree, -, hd, hname, -, hc⟩ := hf.portAdd_eq hoffer h
  have hi : i.val = k := by
    have hnot : ¬ i.val < k := mt (hfilled i).2 (PortSet.firstFree?_eq_some hfree)
    by_contra hne
    have hk : k < i.val := by omega
    let j : PortIndex := ⟨k, Nat.lt_trans hk i.isLt⟩
    exact Nat.lt_irrefl k ((hfilled j).1 (PortSet.mem_of_lt_firstFree? hfree hk))
  have hgains : b.GainsPort c k name := hc ▸ gainsPort_installed hfilled hb hi hd hname e
  refine ⟨hi ▸ i.isLt, ?_, hgains⟩
  -- another port of that name would be there still, beside the new one
  rintro ⟨j, q, hq, hqname⟩
  have hji : j ≠ i := by
    rintro rfl
    have hempty := (hb.sound.of_firstFree? hfree).1
    cases hempty.symm.trans hq
  have hjk : j.val ≠ k := fun h => hji (Fin.ext (h.trans hi.symm))
  obtain ⟨p, hp, hpname, -⟩ := (hgains.placed i hi).port
  have hkept := (hgains.others j hjk).port.trans hq
  have hrecords := (hb.handle h).sound_records.2
  exact hji (hrecords.names j i q p hkept hp (hqname.trans hpname.symm))

theorem Filled.of_portAddAll {k : Nat} (hfilled : b.Filled k) (hk : k ≤ maxPorts) (hb : b.Reachable)
    (hf : b.Furnished net) {names : List String} (hoffers : ∀ name ∈ names, net.Offers name)
    (h : b.handleAll (names.map (.portAdd · {})) = (c, .ok ())) :
    k + names.length ≤ maxPorts ∧ names.Nodup ∧ (∀ name ∈ names, ¬ b.HasPort name) ∧
      ∀ vid, c.vlans.Has vid ↔ b.vlans.Has vid := by
  induction names generalizing b k with
  | nil =>
    cases h
    exact ⟨hk, List.nodup_nil, nofun, fun _ => Iff.rfl⟩
  | cons name names ih =>
    obtain ⟨d, a, hfirst, hrest⟩ := handleAll_cons_eq_ok h
    have hoffer := hoffers name List.mem_cons_self
    obtain ⟨hroom, hnew, hgains⟩ := hfilled.of_portAdd hb hf hoffer hfirst
    obtain ⟨hlength, hdistinct, hnews, hvlans⟩ := ih hgains.filled hroom (hb.handle hfirst)
      (hf.portAdd hoffer hfirst) (fun other h => hoffers other (List.mem_cons_of_mem _ h)) hrest
    have hport : d.HasPort name := by
      obtain ⟨p, hp, hname, -⟩ := (hgains.placed ⟨k, hroom⟩ rfl).port
      exact ⟨_, p, hp, hname⟩
    refine ⟨?_, List.nodup_cons.2 ⟨fun hmem => hnews name hmem hport, hdistinct⟩, ?_, ?_⟩
    · rw [List.length_cons]
      omega
    · intro other hother
      rcases List.mem_cons.1 hother with rfl | hother
      · exact hnew
      · rintro ⟨j, p, hp, hname⟩
        have hjk : j.val ≠ k := fun hj => hfilled.not_holds hb (Nat.le_of_eq hj.symm)
          (PortTable.holds_iff.2 ⟨p, hp⟩)
        exact hnews other hother ⟨j, p, (hgains.others j hjk).port.trans hp, hname⟩
    · exact fun vid => (hvlans vid).trans (hgains.vlans vid)

theorem of_vlanAddAll {vids : List Vid} (h : b.handleAll (vids.map .vlanAdd) = (c, .ok ())) :
    vids.Nodup ∧ ∀ vid ∈ vids, ¬ b.vlans.Has vid := by
  induction vids generalizing b with
  | nil => exact ⟨List.nodup_nil, nofun⟩
  | cons vid vids ih =>
    obtain ⟨d, a, hfirst, hrest⟩ := handleAll_cons_eq_ok h
    obtain ⟨hdistinct, hnews⟩ := ih hrest
    obtain ⟨vlans, hcreate, hvlans⟩ : ∃ vlans,
        b.vlans.create vid b.config.defaultLearning = .ok vlans ∧ d.vlans = vlans := by
      simp only [handle, vlanAdd, withVlans, answer] at hfirst
      split at hfirst
      · cases hfirst
        exact ⟨_, ‹_›, rfl⟩
      · cases hfirst
    have hhas := VlanDb.has_create hcreate
    rw [← hvlans] at hhas
    refine ⟨List.nodup_cons.2 ⟨fun hmem => ?_, hdistinct⟩, fun other hother => ?_⟩
    · exact hnews vid hmem ((hhas vid).2 (Or.inl rfl))
    · rcases List.mem_cons.1 hother with rfl | hother
      · exact (VlanDb.create_eq_ok hcreate).1
      · exact fun hold => hnews other hother ((hhas other).2 (Or.inr hold))

/-- A topology whose requests a new bridge has all done fits into a bridge. -/
theorem fits_of_handleAll {config : BridgeConfig} {t : Topology}
    (hb : Bridge.create config (Simulation.network t) = .ok b)
    (hall : b.handleAll t.requests = (c, .ok ())) :
    t.ports.length ≤ 255 ∧ t.ports.Nodup ∧ config.name ∉ t.ports ∧
      (t.vlans.map (·.vid)).Nodup ∧ Vid.zero ∉ t.vlans.map (·.vid) := by
  have hoffers : ∀ name ∈ t.ports, (Simulation.network t).Offers name :=
    fun name => Simulation.offers_network t
  obtain ⟨hfilled, hlocal, hhas⟩ := placed_of_create hb
  obtain ⟨d, hbuilt, -⟩ := handleAll_append_eq_ok hall
  obtain ⟨e, hports, hvlans⟩ := handleAll_append_eq_ok hbuilt
  obtain ⟨hroom, hdistinct, hnew, hsame⟩ := hfilled.of_portAddAll (by decide) (.create hb)
    (furnished_of_create hb) hoffers hports
  have hvids : t.vlans.map (.vlanAdd ·.vid) = (t.vlans.map (·.vid)).map Request.vlanAdd := by
    rw [List.map_map]
    rfl
  rw [hvids] at hvlans
  obtain ⟨hvids, hnews⟩ := of_vlanAddAll hvlans
  have hroom : 1 + t.ports.length ≤ 256 := hroom
  refine ⟨by omega, hdistinct, fun hname => ?_, hvids, fun hzero => ?_⟩
  · obtain ⟨p, hp, hpname, -⟩ := hlocal.port
    exact hnew _ hname ⟨localPort, p, hp, hpname⟩
  · exact hnews Vid.zero hzero ((hsame _).2 ((hhas _).2 rfl))

end Bridge

/-- A new bridge beside the devices of a valid scenario's ports does everything that the topology asks for
just if the ports are few enough, no port and no VLAN is listed twice, no port has the name of the bridge,
and VLAN 0 is not listed. -/
theorem Scenario.requests_done_iff {s : Scenario} (hvalid : s.validate = .ok ()) :
    ∃ b, Bridge.create s.bridge (Simulation.network s.topology) = .ok b ∧
      ((∃ c, b.handleAll s.topology.requests = (c, .ok ())) ↔
        s.topology.ports.length ≤ 255 ∧ s.topology.ports.Nodup ∧
          s.bridge.name ∉ s.topology.ports ∧ (s.topology.vlans.map (·.vid)).Nodup ∧
          Vid.zero ∉ s.topology.vlans.map (·.vid)) := by
  obtain ⟨hconfig, hfault, -⟩ := Scenario.validate_eq_ok_iff.1 hvalid
  obtain ⟨b, hb⟩ := Bridge.exists_create hconfig (Simulation.network s.topology)
  have hoffers : ∀ name ∈ s.topology.ports, (Simulation.network s.topology).Offers name :=
    fun name => Simulation.offers_network s.topology
  refine ⟨b, hb, ?_, ?_⟩
  · rintro ⟨c, hall⟩
    exact Bridge.fits_of_handleAll hb hall
  · rintro ⟨hfew, hdistinct, hbridge, hvids, hzero⟩
    have hnonzero : ∀ v ∈ s.topology.vlans, v.vid ≠ Vid.zero :=
      fun v hv h => hzero (List.mem_map.2 ⟨v, hv, h⟩)
    obtain ⟨c, hall, -⟩ := Bridge.arranged_of_create hb hfault hfew hdistinct hbridge hvids
      hnonzero hoffers
    exact ⟨c, hall⟩

/-- A port that two VLANs list, and a VLAN that is listed once only. -/
theorem Scenario.requests_done_iff_trunk :
    let t : Topology := {
      ports := ["eth1", "eth2"]
      vlans := [{ vid := ⟨10, by decide⟩, untagged := ["eth1"], tagged := ["eth2"] },
        { vid := ⟨20, by decide⟩, tagged := ["eth2"], exclusive := true }]
      pvids := [("eth1", ⟨10, by decide⟩)] }
    let s : Scenario := { topology := t }
    s.validate = .ok () ∧ ∃ b c, Bridge.create {} (Simulation.network t) = .ok b ∧
      b.handleAll t.requests = (c, .ok ()) := by
  intro t s
  have hvalid : s.validate = .ok () := by decide +kernel
  obtain ⟨b, hb, hdone⟩ := requests_done_iff hvalid
  obtain ⟨c, hc⟩ := hdone.2 (by decide +kernel)
  exact ⟨hvalid, b, c, hb, hc⟩

/-- A valid scenario may list VLAN 0, which is there already. -/
theorem Scenario.requests_refused_vlan_zero :
    let s : Scenario := { topology := { ports := ["eth1"], vlans := [{ vid := Vid.zero }] } }
    s.validate = .ok () ∧ ∃ b, Bridge.create s.bridge (Simulation.network s.topology) = .ok b ∧
      (b.handleAll s.topology.requests).2 = .error (.vlanExists Vid.zero) := by
  intro s
  have hconfig : s.bridge.validate = .ok () := by decide +kernel
  obtain ⟨b, hb⟩ := Bridge.exists_create hconfig (Simulation.network s.topology)
  refine ⟨by decide +kernel, b, hb, ?_⟩
  rw [Bridge.create_eq_ok hb]
  decide +kernel

end VlanBridge
