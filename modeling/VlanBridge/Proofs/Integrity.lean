import VlanBridge.Proofs.Bookkeeping
/-!
# Referential integrity

Ports, VLANs and forwarding entries refer to each other by plain numbers. `Integrity` says that every
such number refers to something: a port's default VLAN and an entry's VLAN exist, and the ports that
VLANs and entries name are installed. Only a dynamic entry may outlive its port, and only if the
settings keep such entries when a port is deleted.
-/

namespace VlanBridge.Bridge

open VlanBridge.Net

/-- Every reference from one table of a bridge into another is alive. -/
structure Integrity (b : Bridge) : Prop where
  defaultVlan : b.vlans.Has Vid.zero
  portVlans : ∀ i p, b.ports.port? i = some p → b.vlans.Has p.pvid
  vlanPorts : ∀ r ∈ b.vlans.published, ∀ i, r.vlan.Mentions i → b.ports.Holds i
  entryVlans : ∀ e ∈ b.fdb.entries, b.vlans.Has e.key.vid
  entryPorts : ∀ e ∈ b.fdb.entries, e.origin ≠ .dynamic ∨ b.config.flushOnPortDel = true →
    ∀ i ∈ e.ports, b.ports.Holds i

variable {b : Bridge}

/-! ### Changes of the entries -/

/-- An entry refers to what is there. -/
structure Fits (b : Bridge) (e : Entry) : Prop where
  vid : b.vlans.Has e.key.vid
  ports : e.origin ≠ .dynamic ∨ b.config.flushOnPortDel = true → ∀ i ∈ e.ports, b.ports.Holds i

theorem Integrity.fits (hi : b.Integrity) {e : Entry} (he : e ∈ b.fdb.entries) : b.Fits e :=
  ⟨hi.entryVlans e he, hi.entryPorts e he⟩

theorem Integrity.setEntries (hi : b.Integrity) {s : Learning}
    (h : ∀ e ∈ s.fdb.entries, b.Fits e) : (b.withLearning s).Integrity :=
  ⟨hi.defaultVlan, hi.portVlans, hi.vlanPorts, fun e he => (h e he).vid, fun e he => (h e he).ports⟩

theorem Fits.shrunk {e d : Entry} (hf : b.Fits e) (h : Fdb.Shrunk e d) : b.Fits d := by
  refine ⟨?_, ?_⟩
  · rw [h.key]
    exact hf.vid
  · intro hd i hi
    rw [h.origin] at hd
    exact hf.ports hd i (h.ports i hi)

theorem Integrity.learned (hi : b.Integrity) {i : PortIndex} (hheld : b.ports.Holds i) {vid : Vid}
    (hv : b.vlans.Has vid) (src : Mac) (now : Int) :
    ({ b with fdb := (b.fdb.learn src vid i now).1 } : Bridge).Integrity := by
  refine hi.setEntries (s := { b.toLearning with fdb := (b.fdb.learn src vid i now).1 }) ?_
  intro d hd
  have honly : ∀ j ∈ PortSet.singleton i, b.ports.Holds j := by
    intro j hj
    rw [PortSet.mem_singleton.1 hj]
    exact hheld
  rcases Fdb.mem_learn hd with ⟨e, he, hkey, horigin, hports⟩ | ⟨hkey, -, hports⟩
  · have hf := hi.fits he
    refine ⟨?_, ?_⟩
    · rw [hkey]
      exact hf.vid
    · rw [horigin]
      rcases hports with hports | hports
      · rw [hports]
        exact hf.ports
      · rw [hports]
        exact fun _ => honly
  · refine ⟨?_, ?_⟩
    · rw [hkey]
      exact hv
    · rw [hports]
      exact fun _ => honly

theorem Integrity.entryAdded (hi : b.Integrity) {key : Key} {ports : PortSet} {origin : Origin}
    {s : Learning} {gone : List Entry} (hv : b.vlans.Has key.vid)
    (hports : ∀ i ∈ ports, b.ports.Holds i)
    (h : b.toLearning.addStatic key ports origin = .ok (s, gone)) :
    (b.withLearning s).Integrity := by
  obtain ⟨t, replaced, hadd, rfl⟩ := Learning.addStatic_eq_ok h
  obtain ⟨-, rfl⟩ := Fdb.addStatic_eq_ok hadd
  refine hi.setEntries ?_
  intro d hd
  rcases Ordered.mem_of_mem_insert hd with rfl | hd
  · exact ⟨hv, fun _ => hports⟩
  · exact hi.fits hd

theorem Integrity.entryRemoved (hi : b.Integrity) {key : Key} {s : Learning} {gone : List Entry}
    (h : b.toLearning.remove key = .ok (s, gone)) : (b.withLearning s).Integrity := by
  obtain ⟨t, e, hremove, rfl⟩ := Learning.remove_eq_ok h
  refine hi.setEntries ?_
  intro d hd
  have hd : d ∈ t.entries := hd
  rw [Fdb.remove_eq_ok hremove] at hd
  exact hi.fits (List.mem_filter.1 hd).1

/-! ### Changes of the ports -/

theorem Integrity.portAdded (hi : b.Integrity) (i : PortIndex) (name : String) (endpoint : Endpoint)
    (ingress : IngressDefaults) :
    (({ b with ports := (b.ports.install i name endpoint ingress).1 } :
      Bridge).joinDefaultVlan i).Integrity := by
  have hhas : ∀ vid, (b.vlans.modify Vid.zero (·.attach i false)).Has vid ↔ b.vlans.Has vid :=
    fun vid => VlanDb.has_modify fun v => Vlan.vid_attach v i false
  have hheld : ∀ j, (b.ports.install i name endpoint ingress).1.Holds j ↔ i = j ∨ b.ports.Holds j :=
    fun j => PortTable.holds_install
  refine ⟨(hhas _).2 hi.defaultVlan, ?_, ?_, fun e he => (hhas _).2 (hi.entryVlans e he), ?_⟩
  · intro j p hp
    have hp : (b.ports.install i name endpoint ingress).1.port? j = some p := hp
    rw [PortTable.port?_install] at hp
    refine (hhas _).2 ?_
    split at hp
    · cases hp
      exact hi.defaultVlan
    · exact hi.portVlans j p hp
  · intro r hr j hj
    refine (hheld j).2 ?_
    rcases VlanDb.mem_modify hr with hr | ⟨s, hs, -, rfl⟩
    · exact Or.inr (hi.vlanPorts r hr j hj)
    · rcases Vlan.mentions_attach hj with rfl | hj
      · exact Or.inl rfl
      · exact Or.inr (hi.vlanPorts s hs j hj)
  · intro e he hb j hj
    exact (hheld j).2 (Or.inr (hi.entryPorts e he hb j hj))

/-- The VLANs and the entries do not notice a change of the ports by which no slot loses its port and
no port changes its default VLAN to one that does not exist. -/
theorem Integrity.setPorts (hi : b.Integrity) {ports : PortTable}
    (hheld : ∀ j, ports.Holds j ↔ b.ports.Holds j)
    (hpvid : ∀ j p, ports.port? j = some p → b.vlans.Has p.pvid) :
    ({ b with ports } : Bridge).Integrity :=
  ⟨hi.defaultVlan, hpvid, fun r hr j hj => (hheld j).2 (hi.vlanPorts r hr j hj), hi.entryVlans,
    fun e he hb j hj => (hheld j).2 (hi.entryPorts e he hb j hj)⟩

theorem Integrity.portSet (hi : b.Integrity) (i : PortIndex) {f : Port → Port}
    (hf : ∀ q, (f q).pvid = q.pvid ∨ b.vlans.Has (f q).pvid) :
    ({ b with ports := b.ports.modify i f } : Bridge).Integrity := by
  refine hi.setPorts (fun j => PortTable.holds_modify) ?_
  intro j p hp
  rw [PortTable.port?_modify] at hp
  split at hp
  · obtain ⟨q, hq, rfl⟩ := Option.map_eq_some_iff.1 hp
    rcases hf q with h | h
    · rw [h]
      exact hi.portVlans j q hq
    · exact h
  · exact hi.portVlans j p hp

theorem Integrity.portRefused (hi : b.Integrity) {i : PortIndex} (hnone : b.ports.port? i = none)
    (name : String) (endpoint : Endpoint) (ingress : IngressDefaults) :
    ({ b with ports := (b.ports.install i name endpoint ingress).1.clear i } : Bridge).Integrity := by
  have hsame := PortTable.port?_install_clear hnone name endpoint ingress
  refine hi.setPorts ?_ ?_
  · intro j
    rw [PortTable.Holds, hsame]
    rfl
  · intro j p hp
    rw [hsame] at hp
    exact hi.portVlans j p hp

theorem Integrity.portDeleted (hi : b.Integrity) {i : PortIndex}
    (hfree : ∀ e ∈ b.fdb.entries, i ∈ e.ports →
      e.origin = .dynamic ∧ b.config.flushOnPortDel = false) :
    ({ b with ports := b.ports.clear i, vlans := (b.vlans.detachAll i).1 } : Bridge).Integrity := by
  refine ⟨VlanDb.has_detachAll.2 hi.defaultVlan, ?_, ?_, ?_, ?_⟩
  · intro j p hp
    have hp : (b.ports.clear i).port? j = some p := hp
    rw [PortTable.port?_clear] at hp
    split at hp
    · cases hp
    · exact VlanDb.has_detachAll.2 (hi.portVlans j p hp)
  · intro r hr j hj
    obtain ⟨s, hs, rfl⟩ := VlanDb.mem_detachAll hr
    obtain ⟨hne, hj⟩ := Vlan.mentions_detach.1 hj
    exact PortTable.holds_clear.2 ⟨hne.symm, hi.vlanPorts s hs j hj⟩
  · intro e he
    exact VlanDb.has_detachAll.2 (hi.entryVlans e he)
  · intro e he hb j hj
    refine PortTable.holds_clear.2 ⟨?_, hi.entryPorts e he hb j hj⟩
    rintro rfl
    obtain ⟨hdynamic, hkeep⟩ := hfree e he hj
    rcases hb with hb | hb
    · exact hb hdynamic
    · rw [hkeep] at hb
      cases hb

/-! ### Changes of the VLANs -/

theorem Integrity.vlanCreated (hi : b.Integrity) {vid : Vid} {learning : Bool} {vlans : VlanDb}
    (h : b.vlans.create vid learning = .ok vlans) : ({ b with vlans } : Bridge).Integrity := by
  have hhas : ∀ other, b.vlans.Has other → vlans.Has other :=
    fun other hother => (VlanDb.has_create h other).2 (Or.inr hother)
  refine ⟨hhas _ hi.defaultVlan, fun j p hp => hhas _ (hi.portVlans j p hp), ?_,
    fun e he => hhas _ (hi.entryVlans e he), hi.entryPorts⟩
  obtain ⟨-, rfl⟩ := VlanDb.create_eq_ok h
  intro r hr j hj
  rcases Ordered.mem_of_mem_insert hr with rfl | hr
  · exact absurd hj (Vlan.mentions_new vid learning j)
  · exact hi.vlanPorts r hr j hj

theorem Integrity.vlanDeleted (hi : b.Integrity) {vid : Vid} {vlans : VlanDb} {gone : VlanRecord}
    (h : b.vlans.delete vid = .ok (vlans, gone)) (hfree : ∀ e ∈ b.fdb.entries, e.key.vid ≠ vid) :
    ({ b with
      ports := b.ports.mapPorts fun p => if p.pvid = vid then { p with pvid := Vid.zero } else p
      vlans } : Bridge).Integrity := by
  obtain ⟨hzero, r, hr, -, hvlans⟩ := VlanDb.delete_eq_ok h
  have hhas : ∀ other, b.vlans.Has other → other ≠ vid → vlans.Has other := by
    intro other hother hne
    rw [hvlans]
    exact VlanDb.has_filter.2 ⟨hother, hne⟩
  have hdefault := hhas _ hi.defaultVlan hzero.symm
  refine ⟨hdefault, ?_, ?_, fun e he => hhas _ (hi.entryVlans e he) (hfree e he), ?_⟩
  · intro j p hp
    rw [PortTable.port?_mapPorts] at hp
    obtain ⟨q, hq, rfl⟩ := Option.map_eq_some_iff.1 hp
    by_cases hv : q.pvid = vid
    · rw [if_pos hv]
      exact hdefault
    · rw [if_neg hv]
      exact hhas _ (hi.portVlans j q hq) hv
  · intro s hs j hj
    rw [hvlans] at hs
    exact PortTable.holds_mapPorts.2 (hi.vlanPorts s (List.mem_filter.1 hs).1 j hj)
  · intro e he hb j hj
    exact PortTable.holds_mapPorts.2 (hi.entryPorts e he hb j hj)

theorem Integrity.vlanEdited (hi : b.Integrity) (vid : Vid) {o : Option PortIndex} {f : Vlan → Vlan}
    (hf : Vlan.Edit o f) (ho : ∀ j, o = some j → b.ports.Holds j) :
    ({ b with vlans := b.vlans.modify vid f } : Bridge).Integrity := by
  have hhas : ∀ other, (b.vlans.modify vid f).Has other ↔ b.vlans.Has other :=
    fun other => VlanDb.has_modify hf.vid
  refine ⟨(hhas _).2 hi.defaultVlan, fun j p hp => (hhas _).2 (hi.portVlans j p hp), ?_,
    fun e he => (hhas _).2 (hi.entryVlans e he), hi.entryPorts⟩
  intro r hr j hj
  rcases VlanDb.mem_modify hr with hr | ⟨s, hs, -, rfl⟩
  · exact hi.vlanPorts r hr j hj
  · rcases hf.mentions hj with he | hj
    · exact ho j he
    · exact hi.vlanPorts s hs j hj

/-! ### All transitions -/

/-- Nothing in the references depends on the clock, the counters, the devices or what waits. -/
theorem Integrity.same {c : Bridge} (hi : b.Integrity) (hconfig : c.config = b.config)
    (hports : ∀ i, c.ports.port? i = b.ports.port? i) (hvlans : c.vlans.published = b.vlans.published)
    (hfdb : c.fdb = b.fdb) : c.Integrity := by
  have hhas : ∀ vid, c.vlans.Has vid ↔ b.vlans.Has vid :=
    fun vid => VlanDb.has_of_vids_eq (by rw [hvlans])
  have hheld : ∀ i, c.ports.Holds i ↔ b.ports.Holds i := by
    intro i
    rw [PortTable.Holds, hports]
    rfl
  refine ⟨(hhas _).2 hi.defaultVlan, ?_, ?_, ?_, ?_⟩
  · intro i p hp
    rw [hports] at hp
    exact (hhas _).2 (hi.portVlans i p hp)
  · intro r hr i hm
    rw [hvlans] at hr
    exact (hheld i).2 (hi.vlanPorts r hr i hm)
  · intro e he
    rw [hfdb] at he
    exact (hhas _).2 (hi.entryVlans e he)
  · intro e he hb i hm
    rw [hfdb] at he
    rw [hconfig] at hb
    exact (hheld i).2 (hi.entryPorts e he hb i hm)

theorem Integrity.queue (hi : b.Integrity) (r : Release) : (b.queue r).Integrity :=
  hi.same rfl (fun _ => rfl) rfl rfl

theorem Integrity.transition {c : Bridge} {guards : List Guard} (hs : b.Sound guards)
    (hi : b.Integrity) (h : Transition b c) : c.Integrity := by
  cases h with
  | aside h =>
    refine hi.same h.config ?_ (by rw [h.vlans]) h.fdb
    intro i
    rw [h.ports]
  | reclaimed =>
    obtain ⟨hports, hvlans, hfdb, hconfig⟩ := b.reclaim_tables
    exact hi.same hconfig hports hvlans hfdb
  | @portAdded i name endpoint ingress hfree hname => exact hi.portAdded i name endpoint ingress
  | portRefused name endpoint ingress hfree =>
    exact (hi.portRefused (hs.of_firstFree? hfree).1 name endpoint ingress).queue _
  | @portDeleted i p hlocal hp hfree =>
    rw [hs.ports.index i p hp] at hfree ⊢
    exact (hi.portDeleted hfree).queue _
  | portSet f hp hfixed hpvid => exact hi.portSet _ hpvid
  | vlanCreated h => exact hi.vlanCreated h
  | vlanDeleted h hfree => exact (hi.vlanDeleted h hfree).queue _
  | vlanEdited hf ho hv =>
    refine hi.vlanEdited _ hf ?_
    intro j hj
    obtain ⟨i, p, hp, rfl⟩ := ho j hj
    rw [hs.ports.index i p hp]
    exact PortTable.holds_iff.2 ⟨p, hp⟩
  | @learned i p vid src now hp hv =>
    rw [hs.ports.index i p hp]
    exact hi.learned (PortTable.holds_iff.2 ⟨p, hp⟩) hv src now
  | flushed f port now =>
    refine hi.setEntries ?_
    intro d hd
    obtain ⟨e, he, hshrunk⟩ := Fdb.shrunk_of_mem_flushPort hd
    exact (hi.fits he).shrunk hshrunk
  | entryAdded hv hports h => exact hi.entryAdded hv hports h
  | entryRemoved h => exact hi.entryRemoved h

theorem Integrity.path {c : Bridge} {guards : List Guard} (hs : b.Sound guards) (hi : b.Integrity)
    (h : Path b c) : c.Integrity := by
  induction h with
  | refl => exact hi
  | tail hbefore hlast ih => exact ih.transition (hs.path hbefore) hlast

theorem integrity_of_create {config : BridgeConfig} {network : Network}
    (h : Bridge.create config network = .ok b) : b.Integrity := by
  rw [create_eq_ok h]
  have hzero : ((VlanDb.initial config.defaultLearning).modify Vid.zero
      (·.attach localPort false)).Has Vid.zero := by
    rw [VlanDb.has_modify fun v => Vlan.vid_attach v localPort false]
    rfl
  have hheld : ((PortTable.ofName config.name).activate localPort).Holds localPort := by
    show ((PortTable.ofName config.name).port? localPort).isSome = true
    rw [PortTable.port?_ofName]
    rfl
  refine ⟨hzero, ?_, ?_, fun e he => (nomatch he), fun e he => (nomatch he)⟩
  · intro i p hp
    have hp : (PortTable.ofName config.name).port? i = some p := hp
    rw [PortTable.port?_ofName] at hp
    split at hp
    · cases hp
      exact hzero
    · cases hp
  · intro r hr i hm
    rcases VlanDb.mem_modify hr with hr | ⟨s, hs, -, rfl⟩
    · cases List.mem_singleton.1 hr
      exact absurd hm (Vlan.mentions_new _ _ i)
    · cases List.mem_singleton.1 hs
      rcases Vlan.mentions_attach hm with rfl | hm
      · exact hheld
      · exact absurd hm (Vlan.mentions_new _ _ i)

theorem Reachable.sound_integrity (hb : b.Reachable) : b.Sound ∧ b.Integrity :=
  Reachable.induction (P := fun b => b.Sound ∧ b.Integrity)
    (fun h => ⟨sound_of_create h, integrity_of_create h⟩)
    (fun hb h => ⟨hb.1.transition h, hb.2.transition hb.1 h⟩) hb

/-- In every state that a bridge comes into, the references between its tables are alive. -/
theorem references_alive (hb : b.Reachable) : b.Integrity := hb.sound_integrity.2

/-- A port that joins a VLAN, gets a static entry and is deleted leaves no reference behind. -/
theorem references_alive_after_deletion :
    let network : Network := {
      devices := #[{ name := "eth0", mac := ⟨2, 0, 0, 0, 0, 1⟩ }]
      registry := [("eth0", 0)] }
    let seven : Vid := ⟨7, Nat.le_of_ble_eq_true rfl⟩
    ∃ b, Bridge.create {} network = .ok b ∧
      (b.run [.request (.portAdd "eth0" {}), .request (.vlanAdd seven),
        .request (.vlanAttach seven "eth0" true),
        .request (.fdbAdd (Key.mac seven ⟨2, 0, 0, 0, 0, 9⟩) ["eth0"] .user),
        .request (.portDel "eth0")]).Integrity := by
  intro network seven
  have hvalid : BridgeConfig.validate {} = .ok () := rfl
  obtain ⟨b, hb⟩ := exists_create hvalid network
  exact ⟨b, hb, references_alive ((Reachable.create hb).run _)⟩

end VlanBridge.Bridge
