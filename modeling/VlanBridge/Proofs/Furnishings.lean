import VlanBridge.Proofs.Handles
import VlanBridge.Proofs.Topologies
/-!
# Bridges over a network

The ports of a bridge that is built from a topology are devices of the network it was created over. The
network does not stay the same, for devices get a master and frames are handed to them, but under each name
it keeps the device it had, up to its master and what it has sent. So the name of a port leads to its device
(`Furnished`), and a device that was on offer at the beginning is on offer again once it is released. Every
request by which a bridge is built keeps this.
-/

namespace VlanBridge

open VlanBridge.Net

/-! ### Devices, whoever their masters are -/

namespace Network

/-- Two networks have the same devices under the same names; their masters and what they have sent may
differ. -/
structure SameDevices (net other : Network) : Prop where
  registry : other.registry = net.registry
  devices : ∀ id, (other.device? id).map (·.release.setup) = (net.device? id).map (·.release.setup)

variable {net other third : Network}

theorem SameDevices.refl (net : Network) : net.SameDevices net := ⟨rfl, fun _ => rfl⟩

theorem SameDevices.trans (h : net.SameDevices other) (k : other.SameDevices third) :
    net.SameDevices third :=
  ⟨k.registry.trans h.registry, fun id => (k.devices id).trans (h.devices id)⟩

theorem Alike.sameDevices (h : net.Alike other) : net.SameDevices other := by
  refine ⟨h.registry, fun id => ?_⟩
  rcases h.device? id with ⟨hd, he⟩ | ⟨d, e, hd, he, hs⟩
  · rw [hd, he]
  · rw [hd, he]
    exact congrArg some (Device.setup_release hs)

theorem sameDevices_modifyDevice {id : DeviceId} {f : Device → Device}
    (hf : ∀ d, net.device? id = some d → (f d).release.setup = d.release.setup) :
    net.SameDevices (net.modifyDevice id f) := by
  refine ⟨rfl, fun i => ?_⟩
  rw [device?_modifyDevice]
  split
  · rename_i hi
    subst hi
    cases hd : net.device? i with
    | none => rfl
    | some d => exact congrArg some (hf d hd)
  · rfl

/-- The device that was on offer under a name is there still, and is on offer again once it is released. -/
theorem SameDevices.exists_device (h : net.SameDevices other) {name : String}
    (hoffer : net.Offers name) :
    ∃ id d, net.lookup name = some id ∧ other.lookup name = some id ∧ other.device? id = some d ∧
      d.release.Admissible name := by
  obtain ⟨id, d, hlookup, hd, hadmissible⟩ := hoffer
  have hsame := h.devices id
  rw [hd] at hsame
  obtain ⟨e, he, hsetup⟩ := Option.map_eq_some_iff.1 hsame
  have hlookup' : other.lookup name = some id := by
    unfold Network.lookup
    rw [h.registry]
    exact hlookup
  exact ⟨id, e, hlookup, hlookup', he, hadmissible.release.of_setup_eq hsetup⟩

end Network

namespace Bridge

variable {b c : Bridge} {i : PortIndex} {net : Network}

/-- The ports of a bridge are devices of a network, as new ports treat their frames, and nothing waits but
the releases of entries. -/
structure Furnished (b : Bridge) (net : Network) : Prop where
  network : net.SameDevices b.network
  ports : ∀ i p, b.ports.port? i = some p → p.ingress = {} ∧
    (i ≠ localPort → ∃ id, p.endpoint = .device id ∧ net.lookup p.name = some id)
  waiting : b.OnlyEntriesWait

theorem furnished_of_create {config : BridgeConfig} (h : Bridge.create config net = .ok b) :
    b.Furnished net := by
  rw [create_eq_ok h]
  refine ⟨.refl net, ?_, nofun⟩
  intro i p hp
  change (PortTable.ofName config.name).port? i = some p at hp
  rw [PortTable.port?_ofName] at hp
  split at hp
  · rename_i hi
    cases hp
    exact ⟨rfl, fun hlocal => absurd hi.symm hlocal⟩
  · cases hp

/-- A change that leaves alone what the ports are made of. -/
theorem Furnished.same (hf : b.Furnished net) (hnetwork : c.network = b.network)
    (hports : ∀ j p, c.ports.port? j = some p →
      ∃ q, b.ports.port? j = some q ∧ p = { q with pvid := p.pvid })
    (hreclaimer : c.reclaimer = b.reclaimer) : c.Furnished net := by
  refine ⟨hnetwork ▸ hf.network, ?_, ?_⟩
  · intro j p hp
    obtain ⟨q, hq, hsame⟩ := hports j p hp
    rw [hsame]
    exact hf.ports j q hq
  · unfold OnlyEntriesWait Bridge.waiting
    rw [hreclaimer]
    exact hf.waiting

theorem Furnished.installed (hf : b.Furnished net) {name : String} {id : DeviceId}
    (hlookup : net.lookup name = some id) {enslaved : Device}
    (hd : ∀ d, b.network.device? id = some d → enslaved.release.setup = d.release.setup) :
    (b.installed i name id enslaved).Furnished net := by
  refine ⟨hf.network.trans (Network.sameDevices_modifyDevice hd), ?_, hf.waiting⟩
  intro j p hp
  change (b.ports.install i name (.device id) {}).1.port? j = some p at hp
  rw [PortTable.port?_install] at hp
  split at hp
  · cases hp
    exact ⟨rfl, fun _ => ⟨id, rfl, hlookup⟩⟩
  · exact hf.ports j p hp

end Bridge

theorem PortTable.exists_of_setPvid {t : PortTable} {i j : PortIndex} {g : Vid → Vid} {p : Port}
    (hp : (t.modify i fun q => { q with pvid := g q.pvid }).port? j = some p) :
    ∃ q, t.port? j = some q ∧ p = { q with pvid := p.pvid } := by
  rw [port?_modify] at hp
  split at hp
  · obtain ⟨q, hq, rfl⟩ := Option.map_eq_some_iff.1 hp
    exact ⟨q, hq, rfl⟩
  · exact ⟨p, hp, rfl⟩

/-- The requests by which a bridge is built over a network. -/
def Request.Builds (net : Network) : Request → Prop
  | .portAdd name ingress => ingress = {} ∧ net.Offers name
  | .vlanAdd _ | .vlanAttach .. | .vlanDetach .. | .portSetPvid .. => True
  | _ => False

namespace Bridge

variable {b c : Bridge} {i : PortIndex} {net : Network}

theorem Furnished.withVlans (hf : b.Furnished net) (changed : Except BridgeError VlanDb) :
    (b.withVlans changed).1.Furnished net := by
  unfold Bridge.withVlans
  split
  · exact hf.same rfl (fun j p hp => ⟨p, hp, rfl⟩) rfl
  · exact hf

theorem Furnished.onPort (hf : b.Furnished net) {name : String} {run : Nat → Outcome Unit}
    (hrun : ∀ n, (run n).1.Furnished net) : (b.onPort name run).1.Furnished net := by
  unfold Bridge.onPort
  split
  · exact hf
  · exact hrun _

/-- A device that is on offer and has become a port did so in the first free slot. -/
theorem Furnished.portAdd_eq (hf : b.Furnished net) {name : String} (hoffer : net.Offers name)
    {a : Response} (h : b.handle (.portAdd name {}) = (c, .ok a)) :
    ∃ i id d e, b.ports.busy.firstFree? = some i ∧ net.lookup name = some id ∧
      b.network.device? id = some d ∧ d.name = name ∧ d.enslave b.config.name = .ok e ∧
      c = b.installed i name id e := by
  obtain ⟨id, d, hlookup, hlookup', hd, hadmissible⟩ := hf.network.exists_device hoffer
  simp only [Bridge.handle, hlookup'] at h
  have hc : (b.portAdd id {}).1 = c := congrArg Prod.fst h
  obtain ⟨k, hok, -⟩ := answer_eq_ok (congrArg Prod.snd h)
  obtain ⟨i, dev, e, hfree, hdev, henslave, -, hjoined⟩ := portAdd_eq_joined hok
  cases hd.symm.trans hdev
  have hname : d.name = name := hadmissible.name
  rw [hname] at hjoined
  exact ⟨i, id, d, e, hfree, hlookup, hd, hname, henslave, hc.symm.trans hjoined⟩

theorem Furnished.portAdd (hf : b.Furnished net) {name : String} (hoffer : net.Offers name)
    {a : Response} (h : b.handle (.portAdd name {}) = (c, .ok a)) : c.Furnished net := by
  obtain ⟨i, id, d, e, -, hlookup, hd, -, henslave, rfl⟩ := hf.portAdd_eq hoffer h
  refine hf.installed hlookup fun dev hdev => ?_
  cases hd.symm.trans hdev
  rw [← Device.release_enslave henslave]
  rfl

theorem Furnished.handle (hf : b.Furnished net) {r : Request} (hr : r.Builds net) {a : Response}
    (h : b.handle r = (c, .ok a)) : c.Furnished net := by
  have hc : (b.handle r).1 = c := congrArg Prod.fst h
  cases r with
  | portAdd name ingress =>
    obtain ⟨rfl, hoffer⟩ := hr
    exact hf.portAdd hoffer h
  | vlanAdd vid =>
    rw [← hc]
    exact hf.withVlans _
  | vlanAttach vid name tagged =>
    rw [← hc]
    refine hf.onPort fun n => ?_
    unfold vlanAttach withPort
    split
    · exact hf
    · exact hf.withVlans _
  | vlanDetach vid name =>
    rw [← hc]
    refine hf.onPort fun n => ?_
    unfold vlanDetach
    split
    · exact hf
    · exact hf.same rfl (fun j p hp => ⟨p, hp, rfl⟩) rfl
  | portSetPvid name vid =>
    rw [← hc]
    refine hf.onPort fun n => ?_
    unfold portSetPvid
    split
    · exact hf
    · exact hf
    · exact hf.same rfl (fun j p hp => PortTable.exists_of_setPvid (g := fun _ => vid) hp) rfl
  | _ => exact hr.elim

theorem Furnished.handleAll (hf : b.Furnished net) {rs : List Request}
    (hrs : ∀ r ∈ rs, r.Builds net) (h : b.handleAll rs = (c, .ok ())) : c.Furnished net := by
  induction rs generalizing b with
  | nil =>
    cases h
    exact hf
  | cons r rs ih =>
    obtain ⟨d, a, hr, hrest⟩ := handleAll_cons_eq_ok h
    exact ih (hf.handle (hrs r List.mem_cons_self) hr)
      (fun s hs => hrs s (List.mem_cons_of_mem _ hs)) hrest

end Bridge

theorem Topology.builds_requests {t : Topology} {net : Network}
    (hoffers : ∀ name ∈ t.ports, net.Offers name) : ∀ r ∈ t.requests, r.Builds net := by
  intro r hr
  unfold requests at hr
  rcases List.mem_append.1 hr with hr | hr
  · rcases List.mem_append.1 hr with hr | hr
    · obtain ⟨name, hname, rfl⟩ := List.mem_map.1 hr
      exact ⟨rfl, hoffers name hname⟩
    · obtain ⟨v, -, rfl⟩ := List.mem_map.1 hr
      trivial
  · obtain ⟨name, -, hr⟩ := List.mem_flatMap.1 hr
    unfold portRequests at hr
    rcases List.mem_append.1 hr with hr | hr
    · rcases List.mem_append.1 hr with hr | hr
      · obtain ⟨v, -, hv⟩ := List.mem_filterMap.1 hr
        rw [VlanPlan.attachment?_eq] at hv
        split at hv
        · cases hv
          trivial
        · cases hv
      · split at hr
        · cases List.mem_singleton.1 hr
          trivial
        · cases hr
    · obtain ⟨vid, -, rfl⟩ := Option.map_eq_some_iff.1 (Option.mem_toList.1 hr)
      trivial

end VlanBridge
