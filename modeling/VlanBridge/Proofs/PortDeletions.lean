import VlanBridge.Proofs.Additions
import VlanBridge.Proofs.Flushes
/-!
# Deleting a port

A deletion takes a port out of its slot and out of all VLANs, releases its device, and flushes the forwarding
table. Of the table there are two plans, one flush of the port or two flushes of what was installed, and
what they leave of an entry is the same but for dynamic ones (`Entry.remnant?`). `WithoutPort` is all that
changes. The slot stays empty until a port is added.
-/

namespace VlanBridge

open VlanBridge.Net

namespace Vlan

/-- A port is in no set any more, and nothing else is different. -/
structure Loses (i : PortIndex) (v w : Vlan) : Prop where
  vid : w.vid = v.vid
  learning : w.learning = v.learning
  members : ∀ j, j ∈ w.members ↔ j ≠ i ∧ j ∈ v.members
  tagged : ∀ j, j ∈ w.tagged ↔ j ≠ i ∧ j ∈ v.tagged
  flood : ∀ c j, j ∈ w.flood c ↔ j ≠ i ∧ j ∈ v.flood c
  routers : ∀ j, j ∈ w.routers ↔ j ≠ i ∧ j ∈ v.routers

theorem loses_detach (v : Vlan) (i : PortIndex) : Loses i v (v.detach i) := by
  refine ⟨rfl, rfl, fun _ => mem_members_detach, fun _ => mem_tagged_detach, fun c j => ?_, fun j => ?_⟩
  · rw [flood_detach, PortSet.mem_erase]
  · rw [routers_detach, PortSet.mem_erase]

end Vlan

/-! ### Entries -/

/-- What a deletion of a port leaves of an entry. One that sends elsewhere stays. One that was learned at the
port is flushed or stays as it is; one that was installed loses the port, and goes if it has no other. -/
def Entry.remnant? (e : Entry) (i : PortIndex) (flushes : Bool) : Option Entry :=
  if i ∉ e.ports then some e
  else if e.origin = .dynamic then (if flushes then none else some e)
  else if e.ports = PortSet.singleton i then none
  else some { e with ports := e.ports.erase i }

namespace PortSet

theorem isEmpty_erase_iff {s : PortSet} {i : PortIndex} (hi : i ∈ s) :
    (s.erase i).isEmpty = true ↔ s = singleton i := by
  simp only [isEmpty_iff_forall, mem_erase, not_and]
  constructor
  · intro h
    ext j
    rw [mem_singleton]
    refine ⟨fun hj => ?_, fun hj => hj ▸ hi⟩
    by_contra hne
    exact h j hne hj
  · rintro rfl j hne hj
    exact hne (mem_singleton.1 hj)

end PortSet

namespace Fdb

variable {t u : Fdb} {e : Entry} {i : PortIndex}

/-- What a flush of a port leaves of an entry, if the filter asks for no more than an origin. -/
theorem flushed?_of_origin (t : Fdb) {f : FlushFilter} (hvid : f.vid = none) (haged : f.agedOnly = false)
    (i : PortIndex) (now : Nat) (e : Entry) :
    t.flushed? f (some i) now e =
      if (∀ o ∈ f.origin, o = e.origin) ∧ i ∈ e.ports then
        if e.ports = PortSet.singleton i then none else some { e with ports := e.ports.erase i }
      else some e := by
  have hhit : t.isHit f (some i) now e = true ↔ (∀ o ∈ f.origin, o = e.origin) ∧ i ∈ e.ports := by
    simp [isHit, Entry.covered, Entry.sendsTo, hvid, haged, Option.all_eq_true]
  unfold flushed?
  simp only [hhit, Entry.portsWithout]
  split
  · rename_i h
    simp only [PortSet.isEmpty_erase_iff h.2]
  · rfl

/-- One flush of the port also takes the entries that were learned there. -/
theorem flushed?_onPort (hw : e.WellFormed) (t : Fdb) (i : PortIndex) (now : Nat) :
    t.flushed? (FlushFilter.onPort i.val) (some i) now e = e.remnant? i true := by
  rw [t.flushed?_of_origin rfl rfl]
  unfold Entry.remnant?
  by_cases hi : i ∈ e.ports
  · rw [if_pos ⟨nofun, hi⟩, if_neg (not_not.2 hi)]
    by_cases hdynamic : e.origin = .dynamic
    · -- the port is the only one of an entry that was learned there
      obtain ⟨-, j, -, -, -, hports⟩ := hw.dynamic hdynamic
      have hji : j = i := (PortSet.mem_singleton.1 (hports ▸ hi)).symm
      rw [if_pos hdynamic, if_pos rfl, if_pos (hji ▸ hports)]
    · rw [if_neg hdynamic]
  · rw [if_neg fun h => hi h.2, if_pos hi]

/-- Two flushes, of what was installed from elsewhere and of what the user installed, leave alone the entries
that were learned. -/
theorem flushed?_installed (t u : Fdb) (i : PortIndex) (now : Nat) (e : Entry) :
    (t.flushed? { origin := some .external } (some i) now e).bind
      (u.flushed? { origin := some .user } (some i) now) = e.remnant? i false := by
  rw [t.flushed?_of_origin rfl rfl]
  unfold Entry.remnant?
  by_cases hi : i ∈ e.ports
  · rw [if_neg (not_not.2 hi)]
    cases horigin : e.origin with
    | dynamic => simp [flushed?_of_origin, horigin]
    | external =>
      simp only [Option.mem_def, Option.some.injEq, forall_eq', hi, and_self, if_true, reduceCtorEq,
        if_false]
      split
      · rfl
      · simp [flushed?_of_origin]
    | user => simp [flushed?_of_origin, horigin, hi]
  · simp [flushed?_of_origin, hi]

/-- The entries that are missing from what is left are those of which nothing is left. -/
theorem count_of_filterMap {f : Entry → Option Entry} (hu : u.entries = t.entries.filterMap f) {n : Nat}
    (hn : u.size + n = t.size) : n = t.entries.countP fun e => (f e).isNone := by
  have hsome : u.size = t.entries.countP fun e => (f e).isSome := by
    rw [size, hu, List.length_filterMap_eq_countP]
  have hall : t.size = (t.entries.countP fun e => (f e).isSome) +
      t.entries.countP fun e => (f e).isNone := by
    rw [size, List.length_eq_countP_add_countP fun e => (f e).isSome]
    simp only [Bool.not_eq_true, Option.isSome_eq_false_iff, Bool.decide_eq_true]
  omega

end Fdb

namespace Bridge

variable {b c : Bridge} {i : PortIndex} {p : Port}

/-- Both plans leave the remnants in the table and count the entries of which there is none. -/
theorem flushDeletedPort_remnants (hw : b.fdb.WellFormed) (i : PortIndex) :
    ∃ r, b.flushDeletedPort i = { b with
      reclaimer := r
      fdb := { b.fdb with
        entries := b.fdb.entries.filterMap (·.remnant? i b.config.flushOnPortDel) }
      counters := b.counters.add .flushed (UInt64.ofNat
        (b.fdb.entries.countP fun e => (e.remnant? i b.config.flushOnPortDel).isNone)) } := by
  unfold flushDeletedPort
  cases b.config.flushOnPortDel with
  | true =>
    let u := (b.fdb.flushPort (FlushFilter.onPort i.val) (some i) b.clock).1
    have hentries : u.entries = b.fdb.entries.filterMap (·.remnant? i true) :=
      List.filterMap_congr fun e he => Fdb.flushed?_onPort (hw.entries e he) b.fdb i _
    have hcount := Fdb.count_of_filterMap hentries (b.fdb.size_flushPort _ _ _)
    rw [← hentries, ← hcount]
    exact ⟨_, rfl⟩
  | false =>
    let external := b.fdb.flushPort { origin := some .external } (some i) b.clock
    let user := external.1.flushPort { origin := some .user } (some i) b.clock
    have hentries : user.1.entries = b.fdb.entries.filterMap (·.remnant? i false) :=
      List.filterMap_filterMap.trans
        (List.filterMap_congr fun e _ => b.fdb.flushed?_installed external.1 i _ e)
    have hsize : user.1.size + (external.2.length + user.2.length) = b.fdb.size := by
      have hfirst : external.1.size + external.2.length = b.fdb.size := Fdb.size_flushPort ..
      have hsecond : user.1.size + user.2.length = external.1.size := Fdb.size_flushPort ..
      omega
    rw [← hentries, ← Fdb.count_of_filterMap hentries hsize]
    exact ⟨_, rfl⟩

/-! ### The bridge -/

/-- A port is gone from its slot, from all VLANs and, as the configuration says, from the forwarding table;
its device has no master; the entries of which nothing is left have been counted. Nothing else is
different. -/
structure WithoutPort (i : PortIndex) (id : DeviceId) (b c : Bridge) : Prop where
  port : c.ports.port? i = none
  others : ∀ j, j ≠ i → c.ports.port? j = b.ports.port? j
  generation : ∀ j, c.ports.generation j = b.ports.generation j
  active : c.ports.active = b.ports.active.erase i
  vlans : List.Forall₂ (Vlan.Loses i) b.vlans.list c.vlans.list
  fdb : c.fdb = { b.fdb with
    entries := b.fdb.entries.filterMap (·.remnant? i b.config.flushOnPortDel) }
  counters : c.counters = { b.counters with
    flushed := b.counters.flushed + UInt64.ofNat
      (b.fdb.entries.countP fun e => (e.remnant? i b.config.flushOnPortDel).isNone) }
  device : c.network.device? id = (b.network.device? id).map ({ · with master := none })
  devices : ∀ other, other ≠ id → c.network.device? other = b.network.device? other
  registry : c.network.registry = b.network.registry
  stack : c.network.stack = b.network.stack
  config : c.config = b.config
  clock : c.clock = b.clock
  trap : c.trap = b.trap
  nextSweep : c.nextSweep = b.nextSweep

theorem portDel_without (hw : b.fdb.WellFormed) (hi : i ≠ localPort) (hp : b.ports.port? i = some p)
    (hindex : p.index = i) {id : DeviceId} (hid : p.endpoint = .device id) :
    (b.portDel i.val).2 = .ok () ∧ b.WithoutPort i id (b.portDel i.val).1 := by
  obtain ⟨r, hflush⟩ := b.flushDeletedPort_remnants hw i
  have hdevice : p.device? = some id := by rw [Port.device?, hid]
  unfold portDel
  simp only [PortTable.remove_of_port? hi hp, hindex, flushDeletedPort_with, hflush, releaseDevice,
    hdevice, retirePort]
  refine ⟨trivial, ?_⟩
  generalize hc : retire _ _ = c
  obtain ⟨hfdb, hcounters, hclock, hconfig, hnetwork, htrap, hsweep, hport, hgeneration, hactive,
    hpublished⟩ := hc ▸ housekeeping_retire _ _
  have hdevices : ∀ other, c.network.device? other =
      if other = id then (b.network.device? other).map Device.release else b.network.device? other := by
    intro other
    rw [hnetwork, Network.device?_modifyDevice]
  refine ⟨?_, fun j hj => ?_, hgeneration, hactive, ?_, hfdb, hcounters, ?_, fun other hother => ?_, ?_, ?_,
    hconfig, hclock, htrap, hsweep⟩
  · rw [hport, PortTable.port?_clear, if_pos rfl]
  · rw [hport, PortTable.port?_clear, if_neg hj.symm]
  · have hlist : c.vlans.list = b.vlans.list.map (·.detach i) := by
      rw [VlanDb.list, hpublished, VlanDb.detachAll, VlanDb.list, List.map_map, List.map_map]
      rfl
    rw [hlist, List.forall₂_map_right_iff]
    exact List.forall₂_same.2 fun v _ => v.loses_detach i
  · rw [hdevices, if_pos rfl]
    rfl
  · rw [hdevices, if_neg hother]
  · rw [hnetwork]
    rfl
  · rw [hnetwork]
    rfl

/-- An empty slot has no port to delete. -/
theorem portDel_of_empty (hi : i ≠ localPort) (hp : b.ports.port? i = none) :
    b.portDel i.val = (b, .error (.unknownPort i.val)) := by
  have hremove : b.ports.remove i.val = .error (.unknownPort i.val) := by
    unfold PortTable.remove
    rw [if_neg fun h => hi (Fin.ext h), PortIndex.ofNat?_val]
    simp only [hp]
  unfold portDel
  rw [hremove]

end Bridge

namespace Transit

variable {s : Transit} {i : PortIndex} {p : Port}

theorem Reachable.wellFormed (hs : s.Reachable) : s.bridge.fdb.WellFormed :=
  hs.induction (P := fun b => b.fdb.WellFormed) Bridge.wellFormed_of_create
    (fun _ hw h => h.wellFormed hw) fun _ hw => hw

/-- The port of a device can be deleted, and then it is gone with all that refers to it, and nothing else is.
It cannot be deleted again before a port is added. -/
theorem port_deleted (hs : s.Reachable) (hi : i ≠ localPort) (hp : s.bridge.ports.port? i = some p) :
    (s.bridge.portDel i.val).2 = .ok () ∧
    (∃ id, p.endpoint = .device id ∧ s.bridge.WithoutPort i id (s.bridge.portDel i.val).1) ∧
    ∀ steps, (∀ step ∈ steps, ¬ step.AddsPort) →
      let later := ((s.next (.event (.perform (.portDel i.val) trivial))).run steps).bridge
      later.portDel i.val = (later, .error (.unknownPort i.val)) ∧
        (BridgeError.unknownPort i.val).kind = .notFound := by
  obtain ⟨id, hid⟩ := hs.onDevices i p hp hi
  obtain ⟨hok, hwithout⟩ := Bridge.portDel_without hs.wellFormed hi hp (hs.records.index hp) hid
  refine ⟨hok, ⟨id, hid, hwithout⟩, fun steps hsteps => ⟨Bridge.portDel_of_empty hi ?_, rfl⟩⟩
  exact port?_run hwithout.port hsteps

/-- While a frame is in flight, one of two ports is deleted: a group loses it, and an entry that was installed
for it alone and a station that was heard there go. It is asked for again when the frame has arrived. -/
theorem port_deleted_one_of_two :
    let hello (n : UInt8) := Frame.ethernet Mac.broadcast ⟨2, 0, 0, 0, 0, n⟩ EtherType.ipv4 []
    let s := ({ bridge := .beside ["eth0", "eth1"] } : Transit).run [
      .event (.request (.portAdd "eth0" {})), .event (.request (.portAdd "eth1" {})),
      .event (.request (.fdbAdd ⟨Vid.zero, .ipv4 ⟨239, 1, 1, 1⟩⟩ ["eth0", "eth1"] .user)),
      .event (.request (.fdbAdd (Key.mac Vid.zero ⟨2, 0, 0, 0, 0, 7⟩) ["eth0"] .external)),
      .event (.receive ⟨1, 1⟩ (hello 8)), .event (.receive ⟨2, 1⟩ (hello 9)), .pin]
    let steps : List Step := [.event (.request (.vlanAdd ⟨7, by decide⟩)), .drop ⟨0, ⟨0⟩⟩]
    let later := ((s.next (.event (.perform (.portDel 1) trivial))).run steps).bridge
    s.Reachable ∧ s.held ≠ [] ∧ s.bridge.ports.port? 1 = some ⟨1, 1, "eth0", .device 0, Vid.zero, {}⟩ ∧
      s.bridge.fdb.entries.map (fun e => (e.origin, e.ports)) =
        [(.external, PortSet.singleton 1), (.dynamic, PortSet.singleton 1),
          (.dynamic, PortSet.singleton 2), (.user, PortSet.ofList [1, 2])] ∧
      (∀ step ∈ steps, ¬ step.AddsPort) ∧
      (s.bridge.portDel 1).1.fdb.entries.map (fun e => (e.origin, e.ports)) =
        [(.dynamic, PortSet.singleton 2), (.user, PortSet.singleton 2)] ∧
      (s.bridge.portDel 1).1.counters.flushed = 2 ∧
      ((s.bridge.portDel 1).1.network.device? 0).map (·.master) = some none ∧
      (s.bridge.portDel 1).1.ports.port? 2 = s.bridge.ports.port? 2 ∧
      (later.portDel 1).2 = .error (.unknownPort 1) := by
  intro hello s steps later
  have hs : s.Reachable := (Reachable.create (Bridge.create_beside _)).run _
  have hsteps : ∀ step ∈ steps, ¬ step.AddsPort := by
    simp [steps, Step.AddsPort, Event.AddsPort, Request.AddsPort]
  have hheld : s.held ≠ [] := by decide +kernel
  have hp : s.bridge.ports.port? 1 = some ⟨1, 1, "eth0", .device 0, Vid.zero, {}⟩ := by decide +kernel
  have hentries : s.bridge.fdb.entries.map (fun e => (e.origin, e.ports)) =
      [(.external, PortSet.singleton 1), (.dynamic, PortSet.singleton 1),
        (.dynamic, PortSet.singleton 2), (.user, PortSet.ofList [1, 2])] := by decide +kernel
  have hremnants : (s.bridge.fdb.entries.filterMap (·.remnant? 1 s.bridge.config.flushOnPortDel)).map
      (fun e => (e.origin, e.ports)) = [(.dynamic, PortSet.singleton 2), (.user, PortSet.singleton 2)] := by
    decide +kernel
  have hflushed : s.bridge.counters.flushed + UInt64.ofNat (s.bridge.fdb.entries.countP fun e =>
      (e.remnant? 1 s.bridge.config.flushOnPortDel).isNone) = 2 := by decide +kernel
  have hdevice : (s.bridge.network.device? 0).isSome = true := by decide +kernel
  clear_value s
  obtain ⟨-, ⟨id, hid, hwithout⟩, hlater⟩ := port_deleted hs (i := 1) (by decide) hp
  cases hid
  refine ⟨hs, hheld, hp, hentries, hsteps, ?_, ?_, ?_, hwithout.others 2 (by decide), ?_⟩
  · exact (congrArg (fun t : Fdb => t.entries.map _) hwithout.fdb).trans hremnants
  · exact (congrArg Counters.flushed hwithout.counters).trans hflushed
  · obtain ⟨d, hd⟩ := Option.isSome_iff_exists.1 hdevice
    exact (congrArg _ hwithout.device).trans (by rw [hd]; rfl)
  · exact congrArg Prod.snd (hlater steps hsteps).1

end Transit

end VlanBridge
