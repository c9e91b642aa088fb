import VlanBridge.Proofs.Masters
import VlanBridge.Proofs.PortDeletions
import VlanBridge.Proofs.SteadyDevices
/-!
# Shutting down

A shutdown deletes the ports of a list that is made before the first of them goes. Deletions of different
ports do not get in each other's way: none of them fails, and together they take away what each takes away
(`WithoutPorts`). Once the waiting releases have run, the local port is all that is left of the ports.
-/

namespace VlanBridge

open VlanBridge.Net

namespace Vlan

/-- Some ports are in no set any more, and nothing else is different. -/
structure LosesAll (is : List PortIndex) (v w : Vlan) : Prop where
  vid : w.vid = v.vid
  learning : w.learning = v.learning
  members : ∀ j, j ∈ w.members ↔ j ∉ is ∧ j ∈ v.members
  tagged : ∀ j, j ∈ w.tagged ↔ j ∉ is ∧ j ∈ v.tagged
  flood : ∀ c j, j ∈ w.flood c ↔ j ∉ is ∧ j ∈ v.flood c
  routers : ∀ j, j ∈ w.routers ↔ j ∉ is ∧ j ∈ v.routers

variable {v w u : Vlan} {i : PortIndex} {is : List PortIndex}

theorem LosesAll.nil (v : Vlan) : LosesAll [] v v := by
  refine ⟨rfl, rfl, ?_, ?_, ?_, ?_⟩ <;> intros <;>
    simp only [List.not_mem_nil, not_false_eq_true, true_and]

theorem Loses.cons (h : Loses i v w) (k : LosesAll is w u) : LosesAll (i :: is) v u := by
  refine ⟨k.vid.trans h.vid, k.learning.trans h.learning, ?_, ?_, ?_, ?_⟩
  · intro j
    rw [k.members, h.members, List.mem_cons, not_or, and_assoc, and_left_comm]
  · intro j
    rw [k.tagged, h.tagged, List.mem_cons, not_or, and_assoc, and_left_comm]
  · intro c j
    rw [k.flood, h.flood, List.mem_cons, not_or, and_assoc, and_left_comm]
  · intro j
    rw [k.routers, h.routers, List.mem_cons, not_or, and_assoc, and_left_comm]

theorem forall₂_losesAll_cons {vs ws us : List Vlan} (h : List.Forall₂ (Loses i) vs ws)
    (k : List.Forall₂ (LosesAll is) ws us) : List.Forall₂ (LosesAll (i :: is)) vs us := by
  induction h generalizing us with
  | nil =>
    cases k
    exact .nil
  | cons hhead _ ih =>
    cases k with
    | cons khead ktail => exact .cons (hhead.cons khead) (ih ktail)

end Vlan

theorem Entry.remnant?_of_not_mem {e : Entry} {i : PortIndex} (h : i ∉ e.ports) (flushes : Bool) :
    e.remnant? i flushes = some e := if_pos h

namespace Bridge

variable {b c d : Bridge} {i : PortIndex} {is : List PortIndex}

/-! ### Deletions in turn -/

/-- Deletes ports in turn. -/
def portDelAll (b : Bridge) (is : List PortIndex) : Bridge := is.foldl (fun b i => (b.portDel i.val).1) b

/-- Some ports are gone from their slots and from all VLANs, and their devices have no master. Other ports and
devices are as before, and so are the entries that none of these ports is in. -/
structure WithoutPorts (is : List PortIndex) (b c : Bridge) : Prop where
  port? : ∀ j, c.ports.port? j = if j ∈ is then none else b.ports.port? j
  generation : ∀ j, c.ports.generation j = b.ports.generation j
  vlans : List.Forall₂ (Vlan.LosesAll is) b.vlans.list c.vlans.list
  entries : ∀ e ∈ b.fdb.entries, (∀ i ∈ is, i ∉ e.ports) → e ∈ c.fdb.entries
  released : ∀ i ∈ is, ∀ p id, b.ports.port? i = some p → p.endpoint = .device id →
    c.network.device? id = (b.network.device? id).map Device.release
  devices : ∀ id, (∀ i ∈ is, ∀ p, b.ports.port? i = some p → p.endpoint ≠ .device id) →
    c.network.device? id = b.network.device? id
  registry : c.network.registry = b.network.registry
  stack : c.network.stack = b.network.stack
  config : c.config = b.config
  clock : c.clock = b.clock
  trap : c.trap = b.trap
  nextSweep : c.nextSweep = b.nextSweep

theorem WithoutPorts.nil (b : Bridge) : b.WithoutPorts [] b := by
  refine ⟨fun _ => rfl, fun _ => rfl, List.forall₂_same.2 fun v _ => .nil v, fun e he _ => he, ?_,
    fun _ _ => rfl, rfl, rfl, rfl, rfl, rfl, rfl⟩
  intro i hi
  cases hi

theorem WithoutPort.cons {p : Port} {id : DeviceId} (h : b.WithoutPort i id c)
    (hp : b.ports.port? i = some p) (hid : p.endpoint = .device id) (hi : i ∉ is)
    (k : c.WithoutPorts is d) : b.WithoutPorts (i :: is) d := by
  have hslot : ∀ j, c.ports.port? j = if j = i then none else b.ports.port? j := by
    intro j
    split
    · rename_i hji
      rw [hji, h.port]
    · rename_i hji
      exact h.others j hji
  have hkept : ∀ j ∈ is, c.ports.port? j = b.ports.port? j :=
    fun j hj => h.others j fun he => hi (he ▸ hj)
  -- a device that two of the ports share is released twice
  have htwice : ∀ o : Option Device, (o.map Device.release).map Device.release = o.map Device.release := by
    intro o
    cases o <;> rfl
  have hdevice : c.network.device? id = (b.network.device? id).map Device.release := h.device
  refine ⟨?_, fun j => (k.generation j).trans (h.generation j), Vlan.forall₂_losesAll_cons h.vlans k.vlans,
    ?_, ?_, ?_, k.registry.trans h.registry, k.stack.trans h.stack, k.config.trans h.config,
    k.clock.trans h.clock, k.trap.trans h.trap, k.nextSweep.trans h.nextSweep⟩
  · intro j
    rw [k.port?, hslot]
    by_cases hji : j = i <;> by_cases hj : j ∈ is <;> simp [hji, hj, hi]
  · intro e he hout
    refine k.entries e ?_ fun j hj => hout j (List.mem_cons_of_mem _ hj)
    rw [h.fdb]
    exact List.mem_filterMap.2
      ⟨e, he, Entry.remnant?_of_not_mem (hout i (List.mem_cons_self ..)) _⟩
  · intro j hj q other hq hother
    by_cases hlater : ∃ j' ∈ is, ∃ q', c.ports.port? j' = some q' ∧ q'.endpoint = .device other
    · obtain ⟨j', hj', q', hq', hother'⟩ := hlater
      rw [k.released j' hj' q' other hq' hother']
      by_cases hsame : other = id
      · rw [hsame, hdevice, htwice]
      · rw [h.devices other hsame]
    · simp only [not_exists, not_and] at hlater
      rw [k.devices other fun j' hj' q' hq' => hlater j' hj' q' hq']
      rcases List.mem_cons.1 hj with rfl | hj
      · cases hp.symm.trans hq
        cases hid.symm.trans hother
        exact hdevice
      · exact absurd hother (hlater j hj q ((hkept j hj).trans hq))
  · intro other hnone
    have hother : other ≠ id := by
      rintro rfl
      exact hnone i (List.mem_cons_self ..) p hp hid
    rw [k.devices other fun j hj q hq => hnone j (List.mem_cons_of_mem _ hj) q ((hkept j hj).symm.trans hq),
      h.devices other hother]

theorem Path.wellFormed (h : Path b c) (hw : b.fdb.WellFormed) : c.fdb.WellFormed := by
  induction h with
  | refl => exact hw
  | tail _ hlast ih => exact hlast.wellFormed ih

/-- The slot holds the port of a device, so that its port can be deleted. -/
def Deletable (b : Bridge) (i : PortIndex) : Prop :=
  i ≠ localPort ∧ ∃ p id, b.ports.port? i = some p ∧ p.index = i ∧ p.endpoint = .device id

theorem Deletable.portDel (hw : b.fdb.WellFormed) (hi : b.Deletable i) : (b.portDel i.val).2 = .ok () ∧
    ∃ p id, b.ports.port? i = some p ∧ p.endpoint = .device id ∧
      b.WithoutPort i id (b.portDel i.val).1 := by
  obtain ⟨hlocal, p, id, hp, hindex, hid⟩ := hi
  obtain ⟨hok, hwithout⟩ := portDel_without hw hlocal hp hindex hid
  exact ⟨hok, p, id, hp, hid, hwithout⟩

theorem Deletable.after {id : DeviceId} (h : b.WithoutPort i id c) {j : PortIndex} (hj : b.Deletable j)
    (hji : j ≠ i) : c.Deletable j := by
  obtain ⟨hlocal, p, other, hp, hindex, hother⟩ := hj
  exact ⟨hlocal, p, other, (h.others j hji).trans hp, hindex, hother⟩

/-- Ports that can be deleted can be deleted in turn. -/
theorem portDelAll_without (hw : b.fdb.WellFormed) (hnodup : is.Nodup) (his : ∀ i ∈ is, b.Deletable i) :
    b.WithoutPorts is (b.portDelAll is) := by
  induction is generalizing b with
  | nil => exact .nil b
  | cons i is ih =>
    obtain ⟨hi, hrest⟩ := List.nodup_cons.1 hnodup
    obtain ⟨-, p, id, hp, hid, hwithout⟩ := (his i (List.mem_cons_self ..)).portDel hw
    refine hwithout.cons hp hid hi (ih ((portDel_path b i.val).wellFormed hw) hrest fun j hj => ?_)
    exact (his j (List.mem_cons_of_mem _ hj)).after hwithout fun he => hi (he ▸ hj)

/-- Each of them still can when those before it have gone. -/
theorem deletable_portDelAll (hw : b.fdb.WellFormed) {before after : List PortIndex}
    (hnodup : (before ++ i :: after).Nodup) (his : ∀ j ∈ before ++ i :: after, b.Deletable j) :
    ((b.portDelAll before).portDel i.val).2 = .ok () := by
  induction before generalizing b with
  | nil => exact ((his i (List.mem_cons_self ..)).portDel hw).1
  | cons j before ih =>
    obtain ⟨hj, hrest⟩ := List.nodup_cons.1 hnodup
    obtain ⟨-, p, id, hp, hid, hwithout⟩ := (his j (List.mem_cons_self ..)).portDel hw
    refine ih ((portDel_path b j.val).wellFormed hw) hrest fun k hk => ?_
    exact (his k (List.mem_cons_of_mem _ hk)).after hwithout fun he => hj (he ▸ hk)

theorem WithoutPorts.reclaim (h : b.WithoutPorts is c) : b.WithoutPorts is c.reclaim.1 := by
  have hkeeping := c.housekeeping_reclaim
  have hvlans : c.reclaim.1.vlans.list = c.vlans.list := by
    rw [VlanDb.list, hkeeping.published]
    rfl
  refine ⟨fun j => (hkeeping.port? j).trans (h.port? j),
    fun j => (hkeeping.generation j).trans (h.generation j), ?_, ?_, ?_, ?_, ?_, ?_,
    hkeeping.config.trans h.config, hkeeping.clock.trans h.clock, hkeeping.trap.trans h.trap,
    hkeeping.nextSweep.trans h.nextSweep⟩
  · rw [hvlans]
    exact h.vlans
  · rw [hkeeping.fdb]
    exact h.entries
  · rw [hkeeping.network]
    exact h.released
  · rw [hkeeping.network]
    exact h.devices
  · rw [hkeeping.network]
    exact h.registry
  · rw [hkeeping.network]
    exact h.stack

end Bridge

/-! ### The list of ports -/

/-- Ports stand in the list in the order of their slots. -/
theorem PortTable.nodup_indices {t : PortTable} (h : ∀ i p, t.port? i = some p → p.index = i) :
    (t.list.map (·.index)).Nodup := by
  have hslots : t.slots.toList.Pairwise fun o o' => ∀ p ∈ o, ∀ q ∈ o', p.index ≠ q.index := by
    refine List.pairwise_iff_getElem.2 fun i j hi hj hij p hp q hq => ?_
    have hi : i < maxPorts := by simpa using hi
    have hj : j < maxPorts := by simpa using hj
    have hp : t.port? ⟨i, hi⟩ = some p := by simpa [port?] using hp
    have hq : t.port? ⟨j, hj⟩ = some q := by simpa [port?] using hq
    rw [h _ p hp, h _ q hq]
    exact fun he => Nat.ne_of_lt hij (congrArg Fin.val he)
  refine List.Pairwise.map _ (fun _ _ hne => hne) (List.Pairwise.filterMap id ?_ hslots)
  exact fun _ _ hne p hp q hq => hne p hp q hq

theorem PortTable.Records.ne_localPort_of_device {t : PortTable} {bridgeName : String}
    (hr : t.Records bridgeName) {i : PortIndex} {p : Port} {id : DeviceId} (hp : t.port? i = some p)
    (hid : p.endpoint = .device id) : i ≠ localPort := by
  rintro rfl
  obtain ⟨q, hq, hfixed⟩ := hr.localRecord
  cases hp.symm.trans hq
  cases hid.symm.trans (congrArg (·.2.2) hfixed)

namespace Bridge

variable {b c : Bridge} {i : PortIndex}

/-- The slots of the ports that a shutdown deletes. -/
def devicePorts (b : Bridge) : List PortIndex := (b.ports.list.map (·.index)).filter (· != localPort)

theorem shutdown_eq (b : Bridge) :
    b.shutdown = (({ b with nextSweep := none } : Bridge).portDelAll b.devicePorts).reclaim.1 := rfl

theorem mem_devicePorts (h : ∀ i p, b.ports.port? i = some p → p.index = i) :
    i ∈ b.devicePorts ↔ i ≠ localPort ∧ b.ports.Holds i := by
  unfold devicePorts
  rw [List.mem_filter, bne_iff_ne, and_comm, PortTable.holds_iff, List.mem_map]
  refine and_congr_right fun _ => ⟨?_, ?_⟩
  · rintro ⟨p, hp, rfl⟩
    obtain ⟨j, hp⟩ := PortTable.mem_list.1 hp
    rw [h j p hp]
    exact ⟨p, hp⟩
  · rintro ⟨p, hp⟩
    exact ⟨p, PortTable.mem_list.2 ⟨i, hp⟩, h i p hp⟩

theorem nodup_devicePorts (h : ∀ i p, b.ports.port? i = some p → p.index = i) : b.devicePorts.Nodup :=
  (PortTable.nodup_indices h).filter _

theorem deletable_of_mem_devicePorts (h : ∀ i p, b.ports.port? i = some p → p.index = i)
    (hdevices : b.OnDevices) (hi : i ∈ b.devicePorts) : b.Deletable i := by
  obtain ⟨hlocal, hheld⟩ := (mem_devicePorts h).1 hi
  obtain ⟨p, hp⟩ := PortTable.holds_iff.1 hheld
  obtain ⟨id, hid⟩ := hdevices i p hp hlocal
  exact ⟨hlocal, p, id, hp, h i p hp, hid⟩

/-! ### What is left -/

/-- What a shutdown leaves of a bridge. Its VLANs are all there with what the local port is to them, and so
are the entries that send nowhere else; nothing refers to any other port, and nothing waits. Every device
that was a port has no master. -/
structure ShutDown (b c : Bridge) : Prop where
  held : ∀ i, c.ports.Holds i ↔ i = localPort
  active : ∀ i, i ∈ c.ports.active ↔ i = localPort
  busy : ∀ i, i ∈ c.ports.busy ↔ i = localPort
  port : c.ports.port? localPort = b.ports.port? localPort
  generation : ∀ i, c.ports.generation i = b.ports.generation i
  vlans : List.Forall₂ (Vlan.LosesAll b.devicePorts) b.vlans.list c.vlans.list
  mentions : ∀ v ∈ c.vlans.list, ∀ i, v.Mentions i → i = localPort
  entries : ∀ e ∈ c.fdb.entries, e.origin ≠ .dynamic ∨ b.config.flushOnPortDel = true →
    ∀ i ∈ e.ports, i = localPort
  kept : ∀ e ∈ b.fdb.entries, (∀ i ∈ e.ports, i = localPort) → e ∈ c.fdb.entries
  released : ∀ id, b.ports.Uses id → c.network.device? id = (b.network.device? id).map Device.release
  devices : ∀ id, ¬ b.ports.Uses id → c.network.device? id = b.network.device? id
  pending : c.reclaimer.pending = 0
  nextSweep : c.nextSweep = none
  config : c.config = b.config

theorem Sound.stopped (hs : b.Sound) : ({ b with nextSweep := none } : Bridge).Sound := by
  have hstop : Aside b { b with nextSweep := none } := ⟨rfl, rfl, rfl, rfl, rfl⟩
  exact hs.path hstop.path

theorem shutdown_without (hr : b.ports.Records b.config.name) (hw : b.fdb.WellFormed)
    (hdevices : b.OnDevices) :
    ({ b with nextSweep := none } : Bridge).WithoutPorts b.devicePorts b.shutdown := by
  have hindex : ∀ i p, b.ports.port? i = some p → p.index = i := fun _ _ => hr.index
  have hgone : ({ b with nextSweep := none } : Bridge).WithoutPorts b.devicePorts
      (({ b with nextSweep := none } : Bridge).portDelAll b.devicePorts) :=
    portDelAll_without hw (nodup_devicePorts hindex)
      fun i h => deletable_of_mem_devicePorts (b := { b with nextSweep := none }) hindex hdevices h
  exact hgone.reclaim

theorem holds_shutdown (hr : b.ports.Records b.config.name) (hw : b.fdb.WellFormed)
    (hdevices : b.OnDevices) (i : PortIndex) : b.shutdown.ports.Holds i ↔ i = localPort := by
  have hindex : ∀ i p, b.ports.port? i = some p → p.index = i := fun _ _ => hr.index
  unfold PortTable.Holds
  rw [(shutdown_without hr hw hdevices).port?]
  constructor
  · intro h
    by_contra hne
    split at h
    · cases h
    · rename_i hout
      exact hout ((mem_devicePorts hindex).2 ⟨hne, h⟩)
  · rintro rfl
    obtain ⟨p, hp, -⟩ := hr.localRecord
    rw [if_neg fun h => ((mem_devicePorts hindex).1 h).1 rfl, hp]
    rfl

/-- No release waits after a shutdown that no guard holds up. -/
theorem waiting_shutdown (hs : b.Sound) :
    b.shutdown.waiting = [] ∧ b.shutdown.reclaimer.pending = 0 := by
  have hlast : (({ b with nextSweep := none } : Bridge).portDelAll b.devicePorts).Sound :=
    hs.stopped.path (foldl_portDel_path _ _)
  rw [shutdown_eq]
  exact ⟨waiting_reclaim hlast.tracks, pending_reclaim hlast.tracks⟩

theorem shutDown (hs : b.Sound) (hi : b.Integrity) (hr : b.ports.Records b.config.name)
    (hw : b.fdb.WellFormed) (hdevices : b.OnDevices) : b.ShutDown b.shutdown := by
  have hindex : ∀ i p, b.ports.port? i = some p → p.index = i := fun _ _ => hr.index
  have hlost := shutdown_without hr hw hdevices
  have hheld := holds_shutdown hr hw hdevices
  have hclean : b.shutdown.Sound := hs.path (shutdown_path b)
  have hintact : b.shutdown.Integrity := hi.path hs (shutdown_path b)
  obtain ⟨hnone, hpending⟩ := waiting_shutdown hs
  have hlocal : localPort ∉ b.devicePorts := fun h => ((mem_devicePorts hindex).1 h).1 rfl
  refine ⟨hheld, fun i => (hclean.ports.active i).trans (hheld i), ?_, ?_, hlost.generation,
    hlost.vlans, ?_, ?_, ?_, ?_, ?_, hpending, hlost.nextSweep, hlost.config⟩
  · intro i
    rw [hclean.busy, hnone, or_iff_left List.not_mem_nil]
    exact hheld i
  · rw [hlost.port?, if_neg hlocal]
  · intro v hv i hmentions
    obtain ⟨r, hr, rfl⟩ := List.mem_map.1 hv
    exact (hheld i).1 (hintact.vlanPorts r hr i hmentions)
  · intro e he horigin i hi
    have hconfig : b.shutdown.config = b.config := hlost.config
    rw [← hconfig] at horigin
    exact (hheld i).1 (hintact.entryPorts e he horigin i hi)
  · exact fun e he hports => hlost.entries e he fun i hi hmem => hlocal (hports i hmem ▸ hi)
  · rintro id ⟨i, p, hp, hid⟩
    have hi : i ∈ b.devicePorts :=
      (mem_devicePorts hindex).2 ⟨hr.ne_localPort_of_device hp hid, PortTable.holds_iff.2 ⟨p, hp⟩⟩
    exact hlost.released i hi p id hp hid
  · exact fun id hunused => hlost.devices id fun i _ p hp hid => hunused ⟨i, p, hp, hid⟩

/-- After a shutdown a device that would do for its port becomes the first port. -/
theorem ShutDown.portAdd (h : b.ShutDown c) (hr : b.ports.Records b.config.name) {p : Port}
    {id : DeviceId} (hp : b.ports.port? i = some p) (hid : p.endpoint = .device id) {d : Device}
    (hd : b.network.device? id = some d) (hadmissible : d.release.Admissible p.name)
    (ingress : IngressDefaults) :
    (c.portAdd id ingress).2 = .ok ⟨1, b.ports.generation 1 + 1⟩ := by
  have hbridge : p.name ≠ b.config.name :=
    fun hname => hr.ne_localPort_of_device hp hid ((hr.name_eq_iff hp).1 hname)
  have hnew : ¬ c.HasPort p.name := by
    rintro ⟨j, q, hq, hname⟩
    have hj := (h.held j).1 (PortTable.holds_iff.2 ⟨q, hq⟩)
    rw [hj, h.port] at hq
    exact hbridge (hname.symm.trans ((hr.name_eq_iff hq).2 rfl))
  have hfree : c.ports.busy.firstFree? = some 1 := by
    refine PortSet.firstFree?_of_mem_iff_lt fun j => ?_
    rw [h.busy, Fin.ext_iff, Fin.lt_def]
    exact Nat.lt_one_iff.symm
  have hreleased : c.network.device? id = some d.release := by
    rw [h.released id ⟨i, p, hp, hid⟩, hd, Option.map_some]
  rw [← h.config] at hbridge
  rw [portAdd_of_admissible hnew hbridge hfree hreleased hadmissible, h.generation]
  rfl

end Bridge

namespace Transit

variable {s : Transit}

theorem Reachable.shutDown (hs : s.Reachable) (hheld : s.held = []) :
    s.bridge.ShutDown s.bridge.shutdown := by
  have hsound : s.bridge.Sound (s.held.map (·.guard)) := hs.sound
  rw [hheld] at hsound
  exact Bridge.shutDown hsound hs.integrity hs.records hs.wellFormed hs.onDevices

/-- With no frame in flight, a shutdown succeeds in deleting every port of a device, and leaves the local port
and the VLANs alone, and nothing that refers to another port. Ageing can be started again, and the devices,
if they have not been replaced, can become ports again. -/
theorem shutdown_leaves_clean_bridge (hs : s.Reachable) (hheld : s.held = []) :
    let b := s.bridge
    let c := b.shutdown
    b.ShutDown c ∧
    (∀ before i after, b.devicePorts = before ++ i :: after →
      ((({ b with nextSweep := none } : Bridge).portDelAll before).portDel i.val).2 = .ok ()) ∧
    (∀ timer, (c.startAgeing (some timer)).2 = .ok ()) ∧
    (s.Steady → ∀ i p id ingress, b.ports.port? i = some p → p.endpoint = .device id →
      (c.portAdd id ingress).2 = .ok ⟨1, b.ports.generation 1 + 1⟩) := by
  intro b c
  have hdown : b.ShutDown c := hs.shutDown hheld
  have hindex : ∀ i p, b.ports.port? i = some p → p.index = i := fun _ _ => hs.records.index
  refine ⟨hdown, ?_, ?_, ?_⟩
  · intro before i after hlist
    have hnodup := Bridge.nodup_devicePorts hindex
    have hall : ∀ j ∈ b.devicePorts, ({ b with nextSweep := none } : Bridge).Deletable j :=
      fun j hj => Bridge.deletable_of_mem_devicePorts hindex hs.onDevices hj
    rw [hlist] at hnodup hall
    exact Bridge.deletable_portDelAll (b := { b with nextSweep := none }) hs.wellFormed hnodup hall
  · intro timer
    unfold Bridge.startAgeing
    rw [hdown.nextSweep]
  · intro hsteady i p id ingress hp hid
    obtain ⟨d, hd, hadmissible⟩ := hsteady.restorable i p id hp hid
    exact hdown.portAdd hs.records hp hid hd hadmissible ingress

/-- Two ports, one of them tagged in a VLAN whose router it is, a group that is sent to both, a station that
is heard at one; ageing has been started, and an entry that was removed under the eyes of a frame waits for
its release. The second device becomes the first port of the bridge that is left. -/
theorem shutdown_leaves_clean_bridge_two :
    let hello := Frame.ethernet Mac.broadcast ⟨2, 0, 0, 0, 0, 9⟩ EtherType.ipv4 []
    let seven : Vid := ⟨7, by decide⟩
    let group : Key := ⟨Vid.zero, .ipv4 ⟨239, 1, 1, 1⟩⟩
    let gone := Key.mac Vid.zero ⟨2, 0, 0, 0, 0, 7⟩
    let s := ({ bridge := .beside ["eth0", "eth1"] } : Transit).run [
      .event (.request (.portAdd "eth0" {})), .event (.request (.portAdd "eth1" {})),
      .event (.request (.vlanAdd seven)), .event (.request (.vlanAttach seven "eth0" true)),
      .event (.request (.vlanSetRouter seven "eth0" true)),
      .event (.request (.fdbAdd group ["eth0", "eth1"] .user)),
      .event (.request (.fdbAdd gone ["eth0"] .external)), .event (.receive ⟨1, 1⟩ hello),
      .event (.perform (.startAgeing (some {})) trivial), .pin, .event (.request (.fdbDel gone)),
      .drop ⟨0, ⟨0⟩⟩]
    let b := s.bridge
    let c := b.shutdown
    s.Reachable ∧ s.Steady ∧ s.held = [] ∧ b.fdb.size = 2 ∧ b.reclaimer.pending = 1 ∧
      b.nextSweep.isSome = true ∧ b.devicePorts = [1, 2] ∧ b.ShutDown c ∧
      ((({ b with nextSweep := none } : Bridge).portDelAll [1]).portDel 2).2 = .ok () ∧
      (c.startAgeing (some {})).2 = .ok () ∧ (c.portAdd 1 {}).2 = .ok ⟨1, 2⟩ := by
  intro hello seven group gone s b c
  have hs : s.Reachable := (Reachable.create (Bridge.create_beside _)).run _
  have hsteady : s.Steady := by
    refine (Steady.create (Bridge.create_beside _)).run ?_
    simp
  obtain ⟨hheld, hsize, hpending, hsweep, hports, hp, hgeneration⟩ : s.held = [] ∧ b.fdb.size = 2 ∧
      b.reclaimer.pending = 1 ∧ b.nextSweep.isSome = true ∧ b.devicePorts = [1, 2] ∧
      b.ports.port? 2 = some ⟨2, 1, "eth1", .device 1, Vid.zero, {}⟩ ∧
      b.ports.generation 1 = 1 := by decide +kernel
  clear_value s
  obtain ⟨hdown, hdeletes, hageing, hadds⟩ := shutdown_leaves_clean_bridge hs hheld
  have hadd := hadds hsteady 2 _ 1 {} hp rfl
  rw [hgeneration] at hadd
  exact ⟨hs, hsteady, hheld, hsize, hpending, hsweep, hports, hdown, hdeletes [1] 2 [] hports, hageing {},
    hadd⟩

end Transit

end VlanBridge
