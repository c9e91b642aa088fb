import Mathlib.Logic.Function.Basic
import VlanBridge.Proofs.NamedPorts
import VlanBridge.Proofs.Refusals
import VlanBridge.Proofs.VlanHistories
/-!
# Where ports stand

`Placed` says of a port what it is called, to which VLAN its frames without a tag go and what it is to
every VLAN. A new port is placed in VLAN 0 alone, in the slot after the last. What a request does to the
place of the port that it names is said here for the requests that set up a port; they succeed, and no
other port moves.
-/

namespace VlanBridge

open VlanBridge.Net

namespace Standing

/-- What a port is to a VLAN that it has nothing to do with. -/
def out : Standing := ⟨false, false, fun _ => false, false⟩

/-- What a port is to a VLAN that it has joined: a member that all frames are flooded to. -/
def joined (tagged : Bool) : Standing := ⟨true, tagged, fun _ => true, false⟩

/-- What a new port is to each VLAN. -/
def fresh : Vid → Standing := Function.update (fun _ => out) Vid.zero (joined false)

end Standing

namespace Vlan

variable {v : Vlan} {i : PortIndex}

theorem standing_eq_out : v.standing i = .out ↔ ¬ v.Mentions i := by
  simp only [standing, Standing.out, Standing.mk.injEq, funext_iff, decide_eq_false_iff_not, Mentions,
    not_or, not_exists]

theorem standing_eq_joined {tagged : Bool} : v.standing i = .joined tagged ↔
    i ∈ v.members ∧ (i ∈ v.tagged ↔ tagged = true) ∧ (∀ c, i ∈ v.flood c) ∧ i ∉ v.routers := by
  cases tagged <;>
    simp only [standing, Standing.joined, Standing.mk.injEq, funext_iff, decide_eq_true_eq,
      decide_eq_false_iff_not, Bool.false_eq_true, iff_false, iff_true]

theorem standing_attach (h : v.standing i = .out) (tagged : Bool) :
    (v.attach i tagged).standing i = .joined tagged := by
  obtain ⟨hmember, -, -, hrouter⟩ : i ∉ v.members ∧ i ∉ v.tagged ∧ (¬ ∃ c, i ∈ v.flood c) ∧
      i ∉ v.routers := by simpa only [Mentions, not_or] using standing_eq_out.1 h
  refine standing_eq_joined.2 ⟨mem_members_attach.2 (Or.inl rfl), ?_, ?_, ?_⟩
  · rw [mem_tagged_attach, if_pos rfl]
  · intro c
    rw [flood_attach, if_neg hmember]
    exact PortSet.mem_insert.2 (Or.inl rfl)
  · rw [routers_attach]
    exact hrouter

/-- A change of VLANs that is about one port alone. -/
structure Concerns (i : PortIndex) (f : Vlan → Vlan) : Prop where
  vid : ∀ v, (f v).vid = v.vid
  learning : ∀ v, (f v).learning = v.learning
  others : ∀ v {j : PortIndex}, j ≠ i → (f v).standing j = v.standing j

theorem Concerns.id (i : PortIndex) : Concerns i fun v => v :=
  ⟨fun _ => rfl, fun _ => rfl, fun _ _ _ => rfl⟩

theorem Concerns.comp {f g : Vlan → Vlan} (hf : Concerns i f) (hg : Concerns i g) :
    Concerns i fun v => g (f v) :=
  ⟨fun v => (hg.vid (f v)).trans (hf.vid v), fun v => (hg.learning (f v)).trans (hf.learning v),
    fun v _ hj => (hg.others (f v) hj).trans (hf.others v hj)⟩

/-- The change is made to the VLAN of one identifier. -/
theorem Concerns.only {f : Vlan → Vlan} (hf : Concerns i f) (vid : Vid) :
    Concerns i fun v => if v.vid = vid then f v else v := by
  refine ⟨fun v => ?_, fun v => ?_, fun v j hj => ?_⟩
  · split
    · exact hf.vid v
    · rfl
  · split
    · exact hf.learning v
    · rfl
  · split
    · exact hf.others v hj
    · rfl

theorem Edit.concerns {f : Vlan → Vlan} (hf : Edit (some i) f) : Concerns i f := by
  refine ⟨hf.vid, fun v => ?_, fun v j hj => hf.standing hj v⟩
  cases hf with
  | attach i tagged =>
    show (v.attach i tagged).learning = v.learning
    unfold Vlan.attach
    split <;> rfl
  | detach i => rfl
  | flood c i enabled => cases c <;> rfl
  | router i enabled => rfl

theorem standing_detach_self (v : Vlan) (i : PortIndex) : (v.detach i).standing i = .out :=
  standing_eq_out.2 fun h => (mentions_detach.1 h).1 rfl

end Vlan

/-- A device that may become a port under a name and does not refuse it. -/
structure Device.Admissible (d : Device) (name : String) : Prop where
  name : d.name = name
  kind : d.kind = .ethernet
  station : d.mac.isStation = true
  unowned : d.master = none
  allowed : d.bridgingAllowed = true
  yields : d.refusesMaster = none

/-- An admissible device is registered under its name. -/
def Network.Offers (net : Network) (name : String) : Prop :=
  ∃ id d, net.lookup name = some id ∧ net.device? id = some d ∧ d.Admissible name

theorem Device.Admissible.checkEligible {d : Device} {name bridgeName : String}
    (h : d.Admissible name) (hname : name ≠ bridgeName) : d.checkEligible bridgeName = .ok () := by
  unfold Device.checkEligible Device.hasMaster
  rw [h.name, h.kind, h.station, h.unowned, h.allowed, if_neg hname]
  rfl

theorem Device.Admissible.of_setup_eq {d e : Device} {name : String} (h : d.Admissible name)
    (hsetup : e.setup = d.setup) : e.Admissible name where
  name := (congrArg Device.name hsetup).trans h.name
  kind := (congrArg Device.kind hsetup).trans h.kind
  station := (congrArg (·.mac.isStation) hsetup).trans h.station
  unowned := (congrArg Device.master hsetup).trans h.unowned
  allowed := (congrArg Device.bridgingAllowed hsetup).trans h.allowed
  yields := (congrArg Device.refusesMaster hsetup).trans h.yields

theorem Device.Admissible.release {d : Device} {name : String} (h : d.Admissible name) :
    d.release.Admissible name :=
  ⟨h.name, h.kind, h.station, rfl, h.allowed, h.yields⟩

/-- Enslaving the device of one name leaves the offers under other names. -/
theorem Network.Offers.modifyDevice {net : Network} {name other : String} (h : net.Offers other)
    (hne : other ≠ name) {id : DeviceId} {d e : Device} (hd : net.device? id = some d)
    (hname : d.name = name) : (net.modifyDevice id fun _ => e).Offers other := by
  obtain ⟨id', d', hlookup, hd', hadmissible⟩ := h
  have hid : id' ≠ id := by
    rintro rfl
    cases hd.symm.trans hd'
    exact hne (hadmissible.name.symm.trans hname)
  refine ⟨id', d', hlookup, ?_, hadmissible⟩
  rw [device?_modifyDevice, if_neg hid, hd']

namespace Bridge

variable {b c d : Bridge} {i : PortIndex} {name : String} {pvid vid : Vid} {place : Vid → Standing}

/-- The port in a slot has a name, a VLAN for its frames without a tag, and a standing in each VLAN. -/
structure Placed (b : Bridge) (i : PortIndex) (name : String) (pvid : Vid) (place : Vid → Standing) :
    Prop where
  port : ∃ p, b.ports.port? i = some p ∧ p.name = name ∧ p.pvid = pvid
  standing : ∀ vid v, b.vlans.vlan? vid = some v → v.standing i = place vid

theorem Placed.spared {added : Option Key} (hp : b.Placed i name pvid place)
    (h : b.Spares c i added) : c.Placed i name pvid place := by
  refine ⟨?_, ?_⟩
  · rw [h.port]
    exact hp.port
  · intro vid v hv
    have hsame := h.vlans vid
    rw [hv, Option.map_some] at hsame
    obtain ⟨w, hw, hstanding⟩ := Option.map_eq_some_iff.1 hsame.symm
    exact hstanding.symm.trans (hp.standing vid w hw)

theorem Placed.portIndex_eq (hp : b.Placed i name pvid place) (hb : b.Reachable) :
    b.portIndex name = .ok i := by
  obtain ⟨p, hport, hname, -⟩ := hp.port
  exact (portIndex_eq_ok_iff hb.sound_records.2).2 ⟨p, hport, hname⟩

theorem Placed.require_eq (hp : b.Placed i name pvid place) (hb : b.Reachable) :
    ∃ p, b.ports.port? i = some p ∧ b.ports.require i.val = .ok p ∧ p.index = i := by
  obtain ⟨p, hport, -⟩ := hp.port
  refine ⟨p, hport, ?_, hb.sound.ports.index i p hport⟩
  unfold PortTable.require
  rw [PortTable.get?_val, hport]

/-! ### Requests that set up a port -/

/-- The port in one slot may have moved or have got another VLAN for its frames, and nothing else has
changed: no other port has moved, and no VLAN was made or deleted. -/
structure MovesOnly (b c : Bridge) (i : PortIndex) : Prop where
  db : ∃ f, Vlan.Concerns i f ∧ c.vlans = b.vlans.mapVlans f
  port : ∃ g : Vid → Vid, c.ports = b.ports.modify i fun p => { p with pvid := g p.pvid }
  rest : c = { b with vlans := c.vlans, ports := c.ports }

theorem MovesOnly.refl (b : Bridge) (i : PortIndex) : b.MovesOnly b i :=
  ⟨⟨id, .id i, (b.vlans.mapVlans_id).symm⟩,
    ⟨id, (b.ports.modify_id i).symm⟩, rfl⟩

theorem MovesOnly.trans (h : b.MovesOnly c i) (k : c.MovesOnly d i) : b.MovesOnly d i := by
  obtain ⟨f, hf, hvlans⟩ := h.db
  obtain ⟨f', hf', hvlans'⟩ := k.db
  obtain ⟨g, hports⟩ := h.port
  obtain ⟨g', hports'⟩ := k.port
  refine ⟨⟨fun v => f' (f v), hf.comp hf', ?_⟩, ⟨fun vid => g' (g vid), ?_⟩, ?_⟩
  · rw [hvlans', hvlans, VlanDb.mapVlans_mapVlans]
  · rw [hports', hports, PortTable.modify_modify]
  · rw [k.rest, h.rest]

theorem MovesOnly.vlans (h : b.MovesOnly c i) (vid : Vid) : c.vlans.Has vid ↔ b.vlans.Has vid := by
  obtain ⟨f, hf, hvlans⟩ := h.db
  rw [hvlans, VlanDb.has_mapVlans hf.vid]

theorem MovesOnly.busy (h : b.MovesOnly c i) : c.ports.busy = b.ports.busy := by
  obtain ⟨g, hports⟩ := h.port
  rw [hports]
  rfl

theorem MovesOnly.others (h : b.MovesOnly c i) (j : PortIndex) (hj : j ≠ i) :
    b.Spares c j none := by
  obtain ⟨f, hf, hvlans⟩ := h.db
  obtain ⟨g, hports⟩ := h.port
  refine ⟨?_, fun vid => ?_, fun key _ => ?_⟩
  · rw [hports, PortTable.port?_modify, if_neg hj.symm]
  · rw [hvlans, VlanDb.vlan?_mapVlans _ hf.vid, Option.map_map]
    exact congrArg (fun s => (b.vlans.vlan? vid).map s) (funext fun v => hf.others v hj)
  · rw [h.rest]

theorem movesOnly_edit {f : Vlan → Vlan} (hf : Vlan.Edit (some i) f) (vid : Vid) :
    b.MovesOnly { b with vlans := b.vlans.modify vid f } i :=
  ⟨⟨_, hf.concerns.only vid, b.vlans.modify_eq_mapVlans vid f⟩,
    ⟨id, (b.ports.modify_id i).symm⟩, rfl⟩

theorem Placed.edit (hp : b.Placed i name pvid place) (vid : Vid) {f : Vlan → Vlan}
    (hf : Vlan.Edit (some i) f) {s : Standing}
    (hs : ∀ v : Vlan, v.standing i = place vid → (f v).standing i = s) :
    ({ b with vlans := b.vlans.modify vid f } : Bridge).Placed i name pvid
      (Function.update place vid s) := by
  refine ⟨hp.port, fun other v hv => ?_⟩
  change (b.vlans.modify vid f).vlan? other = some v at hv
  rw [VlanDb.vlan?_modify _ _ _ _ hf.vid] at hv
  split at hv
  · rename_i hother
    subst hother
    obtain ⟨w, hw, rfl⟩ := Option.map_eq_some_iff.1 hv
    rw [Function.update_self]
    exact hs w (hp.standing other w hw)
  · rename_i hother
    rw [Function.update_of_ne hother]
    exact hp.standing other v hv

theorem Placed.joinDefaultVlan (hp : b.Placed i name pvid fun _ => .out) :
    (b.joinDefaultVlan i).Placed i name pvid .fresh := by
  have hedit : Vlan.Edit (some i) (·.attach i false) := .attach i false
  have hjoined := hp.edit Vid.zero hedit fun w hw => Vlan.standing_attach hw false
  exact ⟨hjoined.port, hjoined.standing⟩

/-- A port joins a VLAN that it has nothing to do with. -/
theorem Placed.attach (hp : b.Placed i name pvid place) (hb : b.Reachable) (hvid : b.vlans.Has vid)
    (hout : place vid = .out) (tagged : Bool) :
    ∃ c, b.handle (.vlanAttach vid name tagged) = (c, .ok .done) ∧ b.MovesOnly c i ∧
      c.Placed i name pvid (Function.update place vid (.joined tagged)) := by
  obtain ⟨p, -, hrequire, hindex⟩ := hp.require_eq hb
  obtain ⟨v, -, hv⟩ := hvid.require_eq
  have hedit : Vlan.Edit (some i) (·.attach i tagged) := .attach i tagged
  refine ⟨{ b with vlans := b.vlans.modify vid (·.attach i tagged) }, ?_, movesOnly_edit hedit vid,
    hp.edit vid hedit fun w hw => Vlan.standing_attach (hw.trans hout) tagged⟩
  simp only [handle, onPort, hp.portIndex_eq hb, answer, vlanAttach, withPort, hrequire, hindex,
    withVlans, VlanDb.attach, VlanDb.modifyExisting, hv]

/-- A member leaves a VLAN. -/
theorem Placed.detach (hp : b.Placed i name pvid place) (hb : b.Reachable) (hvid : b.vlans.Has vid)
    {tagged : Bool} (hin : place vid = .joined tagged) :
    ∃ c, b.handle (.vlanDetach vid name) = (c, .ok .done) ∧ b.MovesOnly c i ∧
      c.Placed i name pvid (Function.update place vid .out) := by
  obtain ⟨p, -, hrequire, hindex⟩ := hp.require_eq hb
  obtain ⟨v, hv, hvrequire⟩ := hvid.require_eq
  have hmember : i ∈ v.members := (Vlan.standing_eq_joined.1 ((hp.standing vid v hv).trans hin)).1
  have hedit : Vlan.Edit (some i) (·.detach i) := .detach i
  refine ⟨{ b with vlans := b.vlans.modify vid (·.detach i) }, ?_, movesOnly_edit hedit vid,
    hp.edit vid hedit fun w _ => w.standing_detach_self i⟩
  simp only [handle, onPort, hp.portIndex_eq hb, answer, vlanDetach, hrequire, hindex, VlanDb.detach,
    hvrequire, hmember, if_true]

/-- A port gets another VLAN for its frames without a tag. -/
theorem Placed.setPvid (hp : b.Placed i name pvid place) (hb : b.Reachable)
    (hvid : b.vlans.Has vid) :
    ∃ c, b.handle (.portSetPvid name vid) = (c, .ok .done) ∧ b.MovesOnly c i ∧
      c.Placed i name vid place := by
  obtain ⟨p, hport, hrequire, hindex⟩ := hp.require_eq hb
  obtain ⟨v, -, hv⟩ := hvid.require_eq
  refine ⟨{ b with ports := b.ports.modify p.index ({ · with pvid := vid }) }, ?_,
    ⟨⟨id, .id i, (b.vlans.mapVlans_id).symm⟩, ⟨fun _ => vid, ?_⟩, rfl⟩,
    ⟨?_, hp.standing⟩⟩
  · simp only [handle, onPort, hp.portIndex_eq hb, answer, portSetPvid, hrequire, hv]
  · rw [hindex]
  · obtain ⟨q, hq, hname, -⟩ := hp.port
    refine ⟨{ q with pvid := vid }, ?_, hname, rfl⟩
    show (b.ports.modify p.index ({ · with pvid := vid })).port? i = _
    rw [PortTable.port?_modify, if_pos hindex, hq]
    rfl

/-! ### New ports and new VLANs -/

/-- As many slots as a number says are taken, the lowest ones. -/
def Filled (b : Bridge) (k : Nat) : Prop := ∀ j, j ∈ b.ports.busy ↔ j.val < k

theorem placed_of_create {config : BridgeConfig} {network : Network}
    (h : Bridge.create config network = .ok b) :
    b.Filled 1 ∧ b.Placed localPort config.name Vid.zero .fresh ∧
      ∀ vid, b.vlans.Has vid ↔ vid = Vid.zero := by
  have hinitial : ∀ vid, (VlanDb.initial config.defaultLearning).Has vid ↔ vid = Vid.zero := by
    intro vid
    rw [VlanDb.has_iff]
    simp only [VlanDb.initial, List.mem_singleton, exists_eq_left, eq_comm]
  -- the bridge before the local port joins VLAN 0
  let bare : Bridge := {
    fdb := { ageing := config.ageingNs }
    config
    ports := PortTable.ofName config.name
    vlans := VlanDb.initial config.defaultLearning
    network }
  have hbare : bare.Placed localPort config.name Vid.zero fun _ => .out := by
    refine ⟨⟨_, PortTable.port?_ofName config.name localPort, rfl, rfl⟩, fun vid v hv => ?_⟩
    obtain ⟨r, hr, rfl⟩ := Option.map_eq_some_iff.1 hv
    cases List.mem_singleton.1 (VlanDb.mem_of_find? hr)
    exact Vlan.standing_eq_out.2 (Vlan.mentions_new _ _ _)
  rw [create_eq_ok h]
  refine ⟨?_, hbare.joinDefaultVlan, fun vid => ?_⟩
  · intro j
    show j ∈ PortSet.insert ∅ localPort ↔ _
    rw [PortSet.mem_insert, or_iff_left (PortSet.not_mem_empty j), Nat.lt_one_iff, Fin.ext_iff]
    rfl
  · exact (VlanDb.has_modify fun v => v.vid_attach localPort false).trans (hinitial vid)

theorem Filled.not_holds {k : Nat} (hfilled : b.Filled k) (hb : b.Reachable) (hi : k ≤ i.val) :
    ¬ b.ports.Holds i := by
  intro hheld
  exact Nat.not_lt.2 hi ((hfilled i).1 ((hb.sound.busy i).2 (Or.inl hheld)))

theorem standing_of_not_holds (hi : b.Integrity) (hempty : ¬ b.ports.Holds i) {v : Vlan}
    (hv : b.vlans.vlan? vid = some v) : v.standing i = .out := by
  obtain ⟨r, hr, rfl⟩ := Option.map_eq_some_iff.1 hv
  exact Vlan.standing_eq_out.2 fun h => hempty (hi.vlanPorts r (VlanDb.mem_of_find? hr) i h)

/-- The bridge with the port of an enslaved device in a slot. -/
def installed (b : Bridge) (i : PortIndex) (name : String) (id : DeviceId) (enslaved : Device) :
    Bridge :=
  ({ b with
    ports := (b.ports.install i name (.device id) {}).1
    network := b.network.modifyDevice id fun _ => enslaved } : Bridge).joinDefaultVlan i

theorem placed_installed (hb : b.Reachable) (hempty : ¬ b.ports.Holds i) (name : String)
    (id : DeviceId) (enslaved : Device) :
    (b.installed i name id enslaved).Placed i name Vid.zero .fresh := by
  have hport := PortTable.port?_install b.ports i i name (.device id) {}
  rw [if_pos rfl] at hport
  let bare : Bridge := { b with
    ports := (b.ports.install i name (.device id) {}).1
    network := b.network.modifyDevice id fun _ => enslaved }
  have hplaced : bare.Placed i name Vid.zero fun _ => .out :=
    ⟨⟨_, hport, rfl, rfl⟩, fun _ _ hv => standing_of_not_holds hb.sound_integrity.2 hempty hv⟩
  exact hplaced.joinDefaultVlan

/-- An admissible device becomes the port in the first free slot. -/
theorem portAdd_of_admissible (hnew : ¬ b.HasPort name) (hbridge : name ≠ b.config.name)
    (hfree : b.ports.busy.firstFree? = some i) {id : DeviceId} {dev : Device}
    (hdev : b.network.device? id = some dev) (hadmissible : dev.Admissible name)
    (ingress : IngressDefaults) :
    b.portAdd id ingress = (({ b with
      ports := (b.ports.install i name (.device id) ingress).1
      network := b.network.modifyDevice id fun _ => { dev with master := some b.config.name } } :
        Bridge).joinDefaultVlan i, .ok ⟨i.val, b.ports.generation i + 1⟩) := by
  rw [← hadmissible.name] at hnew
  have hadd := PortTable.add_of_eligible (findByName_of_not_hasPort hnew)
    (hadmissible.checkEligible hbridge) hfree id ingress
  rw [hadmissible.name] at hadd
  have henslave := dev.enslave_of_unowned hadmissible.unowned hadmissible.yields b.config.name
  unfold Bridge.portAdd
  simp only [hdev, hadd, henslave]
  rfl

theorem handle_portAdd (hb : b.Reachable) (hnew : ¬ b.HasPort name)
    (hfree : b.ports.busy.firstFree? = some i) {id : DeviceId} {dev : Device}
    (hlookup : b.network.lookup name = some id) (hdev : b.network.device? id = some dev)
    (hadmissible : dev.Admissible name) :
    ∃ r, b.handle (.portAdd name {}) =
      (b.installed i name id { dev with master := some b.config.name }, .ok r) := by
  have hbridge : name ≠ b.config.name := by
    rintro rfl
    exact hnew (hasPort_config_name hb.sound_records.2)
  have hadd := portAdd_of_admissible hnew hbridge hfree hdev hadmissible {}
  refine ⟨.portAdded ⟨i.val, b.ports.generation i + 1⟩, ?_⟩
  simp only [handle, hlookup, hadd, answer]
  rfl

/-- A port has come in under a name, in the slot after the last. The other ports have not moved, and the
same devices are on offer under other names. -/
structure GainsPort (b c : Bridge) (k : Nat) (name : String) : Prop where
  filled : c.Filled (k + 1)
  placed : ∀ i : PortIndex, i.val = k → c.Placed i name Vid.zero .fresh
  vlans : ∀ vid, c.vlans.Has vid ↔ b.vlans.Has vid
  others : ∀ j : PortIndex, j.val ≠ k → b.Spares c j none
  offers : ∀ other, other ≠ name → b.network.Offers other → c.network.Offers other
  names : ∀ other, other ≠ name → c.HasPort other → b.HasPort other

theorem gainsPort_installed {k : Nat} (hfilled : b.Filled k) (hb : b.Reachable) (hi : i.val = k)
    {id : DeviceId} {dev : Device} (hdev : b.network.device? id = some dev) (hname : dev.name = name)
    (enslaved : Device) : b.GainsPort (b.installed i name id enslaved) k name := by
  have hempty := hfilled.not_holds hb (Nat.le_of_eq hi.symm)
  have hedit : Vlan.Edit (some i) (·.attach i false) := .attach i false
  have hport := fun j => PortTable.port?_install b.ports i j name (.device id) {}
  refine ⟨?_, ?_, fun _ => VlanDb.has_modify hedit.vid, ?_, ?_, ?_⟩
  · intro j
    show j ∈ b.ports.busy.insert i ↔ _
    rw [PortSet.mem_insert, hfilled j, Nat.lt_succ_iff_lt_or_eq, or_comm, Fin.ext_iff, hi]
  · intro j hj
    rw [Fin.ext (hj.trans hi.symm)]
    exact placed_installed hb hempty name id enslaved
  · intro j hj
    have hji : j ≠ i := fun h => hj (h ▸ hi)
    have hspared : b.Spares { b with vlans := b.vlans.modify Vid.zero (·.attach i false) } j none :=
      spares_edit hedit hji Vid.zero
    exact ⟨(hport j).trans (if_neg hji.symm), hspared.vlans, fun _ _ => Iff.rfl⟩
  · exact fun other hother h => h.modifyDevice hother hdev hname
  · rintro other hother ⟨j, p, hp, rfl⟩
    change (b.ports.install i name (.device id) {}).1.port? j = some p at hp
    rw [hport] at hp
    split at hp
    · cases hp
      exact absurd rfl hother
    · exact ⟨j, p, hp, rfl⟩

/-- An admissible device becomes a port, in the slot after the last. -/
theorem Filled.portAdd {k : Nat} (hfilled : b.Filled k) (hb : b.Reachable) (hk : k < maxPorts)
    (hnew : ¬ b.HasPort name) (hoffer : b.network.Offers name) :
    ∃ c r, b.handle (.portAdd name {}) = (c, .ok r) ∧ b.GainsPort c k name := by
  obtain ⟨id, dev, hlookup, hdev, hadmissible⟩ := hoffer
  let i : PortIndex := ⟨k, hk⟩
  obtain ⟨r, hhandle⟩ := handle_portAdd hb hnew
    (PortSet.firstFree?_of_mem_iff_lt (i := i) hfilled) hlookup hdev hadmissible
  exact ⟨_, r, hhandle, gainsPort_installed hfilled hb rfl hdev hadmissible.name _⟩

/-- A VLAN is made; the ports that are as new have nothing to do with it. -/
theorem vlanAdd_of_new (hzero : b.vlans.Has Vid.zero) (hnew : ¬ b.vlans.Has vid) :
    ∃ c, b.handle (.vlanAdd vid) = (c, .ok .done) ∧ c.ports.busy = b.ports.busy ∧
      (∀ other, c.vlans.Has other ↔ other = vid ∨ b.vlans.Has other) ∧
      ∀ i name pvid, b.Placed i name pvid .fresh → c.Placed i name pvid .fresh := by
  obtain ⟨vlans, hcreate⟩ := VlanDb.exists_create hnew b.config.defaultLearning
  refine ⟨{ b with vlans }, ?_, rfl, VlanDb.has_create hcreate, ?_⟩
  · simp only [handle, answer, vlanAdd, withVlans, hcreate]
  · intro i name pvid hp
    refine ⟨hp.port, fun other v hv => ?_⟩
    change vlans.vlan? other = some v at hv
    rw [VlanDb.vlan?_create hcreate] at hv
    split at hv
    · rename_i hother
      cases hv
      have hnonzero : other ≠ Vid.zero := by
        rintro rfl
        exact hnew (hother ▸ hzero)
      rw [Standing.fresh, Function.update_of_ne hnonzero]
      exact Vlan.standing_eq_out.2 (Vlan.mentions_new _ _ i)
    · exact hp.standing other v hv

end Bridge

end VlanBridge
