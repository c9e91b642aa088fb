import VlanBridge.Proofs.Furnishings
import VlanBridge.Proofs.Reversals
/-!
# Ports that are taken out and put back

A bridge that was built from a topology may have a port deleted and added again, by the requests that
concern this port alone. The slot of the deleted port is the lowest free one, since the ports fill the
lowest slots, so the port comes back into it; its own requests move it to where the topology has it, which
is where it was; and what a VLAN is to the other ports is not touched. So the VLANs are the same again, and
of the ports only this one is of another generation. What is used of the bridge is that it is `Arranged`
and that its devices are still those it was built from (`Furnished`), and both are kept by every turn.
-/

namespace VlanBridge

open VlanBridge.Net

namespace Bridge

variable {b c : Bridge} {i : PortIndex} {net : Network} {t : Topology} {bridgeName : String}

/-! ### Taking a port out -/

theorem OnlyEntriesWait.flushPort (h : b.OnlyEntriesWait) (f : FlushFilter)
    (port : Option PortIndex) (now : Int) :
    (b.withLearning (b.toLearning.flushPort f port now).1).OnlyEntriesWait :=
  h.without (b.fdb.flushPort f port now).1 (b.fdb.flushPort f port now).2

theorem OnlyEntriesWait.flushDeletedPort (h : b.OnlyEntriesWait) (i : PortIndex) :
    (b.flushDeletedPort i).OnlyEntriesWait := by
  unfold Bridge.flushDeletedPort
  split
  · exact h.flushPort (FlushFilter.onPort i.val) (some i) b.clock
  · have hexternal := h.flushPort { origin := some .external } (some i) b.clock
    exact hexternal.flushPort { origin := some .user } (some i) b.clock

theorem flushDeletedPort_eq (b : Bridge) (i : PortIndex) :
    b.flushDeletedPort i = b.withLearning (b.flushDeletedPort i).toLearning := by
  unfold flushDeletedPort
  split <;> rfl

/-- The bridge without the port in a slot, which is free. -/
def emptied (b : Bridge) (i : PortIndex) (learning : Learning) (network : Network) : Bridge :=
  { b with
    toLearning := learning
    ports := (b.ports.clear i).free i
    vlans := (b.vlans.detachAll i).1
    network }

/-- With nothing but entries waiting, a port that is deleted leaves a free slot. -/
theorem Sound.portDel_eq (hs : b.Sound) (hw : b.OnlyEntriesWait) {p : Port}
    (hp : b.ports.port? i = some p) (hlocal : i ≠ localPort) :
    ∃ s : Learning, s.reclaimer.pending = 0 ∧
      b.portDel i.val = (b.emptied i s (b.releaseDevice p).network, .ok ()) := by
  have hindex := hs.ports.index i p hp
  have hflushed : (b.flushDeletedPort i).Sound := hs.path (flushDeletedPort_path b i)
  let cleared : Bridge := { b with ports := b.ports.clear i, vlans := (b.vlans.detachAll i).1 }
  let after : Bridge := { cleared with
    toLearning := (b.flushDeletedPort i).toLearning, network := (b.releaseDevice p).network }
  have hafter : (cleared.flushDeletedPort i).releaseDevice p = after := by
    rw [flushDeletedPort_with, flushDeletedPort_eq]
    simp only [after, releaseDevice]
    cases p.device? <;> rfl
  have hwait : after.OnlyEntriesWait := hw.flushDeletedPort i
  obtain ⟨r, hdone, hretire⟩ := hwait.retire_eq hflushed.tracks (.slot i)
  refine ⟨{ (b.flushDeletedPort i).toLearning with reclaimer := r }, hdone, ?_⟩
  unfold portDel retirePort
  rw [PortTable.remove_of_port? hlocal hp]
  simp only [hindex]
  show (((cleared.flushDeletedPort i).releaseDevice p).retire (.slot i), _) = _
  rw [hafter, hretire]
  rfl

end Bridge

/-! ### VLANs that are the same again -/

/-- A VLAN is known by its identifier, by whether it learns, and by where each port stands in it. -/
theorem Vlan.eq_of_standing {v w : Vlan} (hvid : v.vid = w.vid) (hlearning : v.learning = w.learning)
    (h : ∀ i, v.standing i = w.standing i) : v = w := by
  have hset : ∀ (set : Vlan → PortSet) (f : Standing → Bool),
      (∀ u i, i ∈ set u ↔ f (Vlan.standing u i) = true) → set v = set w := by
    intro set f hf
    ext i
    rw [hf, hf, h]
  have hmembers := hset Vlan.members Standing.member (by simp [Vlan.standing])
  have htagged := hset Vlan.tagged Standing.tagged (by simp [Vlan.standing])
  have hflood : ∀ c, v.flood c = w.flood c := fun c =>
    hset (·.flood c) (·.flooded c) (by simp [Vlan.standing])
  have hrouters := hset Vlan.routers Standing.router (by simp [Vlan.standing])
  have hunicast : v.unicastFlood = w.unicastFlood := hflood .unicast
  have hmulticast : v.multicastFlood = w.multicastFlood := hflood .multicast
  have hbroadcast : v.broadcastFlood = w.broadcastFlood := hflood .broadcast
  cases v
  cases w
  simp only [Vlan.mk.injEq]
  exact ⟨hvid, hmembers, htagged, hunicast, hmulticast, hbroadcast, hrouters, hlearning⟩

theorem Release.tidy_allOnVlans (rs : List Release) {db : VlanDb} (hd : db.Tidy) :
    (allOnVlans rs db).Tidy := by
  induction rs generalizing db with
  | nil => exact hd
  | cons r rs ih =>
    cases r with
    | entries => exact ih hd
    | slot i => exact ih hd
    | vlan serial =>
      exact ih ⟨hd.sound.discard serial, hd.single, hd.tags,
        fun s hs => hd.gone s (List.mem_of_mem_filter hs)⟩

namespace Bridge

variable {b c : Bridge} {i : PortIndex} {net : Network} {t : Topology} {bridgeName name : String}

theorem Reachable.tidy (hb : b.Reachable) : b.vlans.Tidy := by
  refine hb.induction (P := fun b => b.vlans.Tidy) ?_ ?_
  · intro config network b h
    rw [create_eq_ok h]
    exact (VlanDb.Tidy.initial config.defaultLearning).step
      (.modify _ Vid.zero (.attach localPort false))
  · intro b c hd h
    cases h with
    | aside h =>
      rw [h.vlans]
      exact hd
    | reclaimed =>
      have hvlans := congrArg Bridge.vlans
        (foldl_release b.toLearning.reclaim.2 (b.withLearning b.toLearning.reclaim.1))
      exact hvlans ▸ Release.tidy_allOnVlans _ hd
    | portAdded => exact hd.step (.modify _ Vid.zero (.attach _ false))
    | portDeleted => exact hd.step (.edited (·.detach _) (fun _ => rfl) fun _ h => h.detach _)
    | vlanCreated h => exact hd.step (.created h)
    | vlanDeleted h => exact hd.step (.deleted h)
    | vlanEdited hf => exact hd.step (.modify _ _ hf)
    | portRefused | portSet | learned | flushed | entryAdded | entryRemoved => exact hd

/-- A port that has moved about and stands in each VLAN where it stood leaves no trace in them. -/
theorem Placed.vlans_eq {pvid pvid' : Vid} {name' : String} {place place' : Vid → Standing}
    (hp : b.Placed i name pvid place) (hq : c.Placed i name' pvid' place') (hd : b.vlans.Tidy)
    {f : Vlan → Vlan} (hf : Vlan.Concerns i f) (hvlans : c.vlans = b.vlans.mapVlans f)
    (hsame : ∀ vid, b.vlans.Has vid → place' vid = place vid) : c.vlans = b.vlans := by
  rw [hvlans]
  refine VlanDb.mapVlans_eq_self fun r hr => ?_
  have hfind : b.vlans.vlan? r.vlan.vid = some r.vlan :=
    congrArg (Option.map VlanRecord.vlan) (hd.find?_eq_some_iff.2 ⟨hr, rfl⟩)
  have hfound : c.vlans.vlan? r.vlan.vid = some (f r.vlan) := by
    rw [hvlans, VlanDb.vlan?_mapVlans _ hf.vid, hfind]
    rfl
  refine Vlan.eq_of_standing (hf.vid _) (hf.learning _) fun j => ?_
  by_cases hj : j = i
  · subst hj
    rw [hp.standing _ _ hfind, hq.standing _ _ hfound, hsame]
    exact VlanDb.has_iff.2 ⟨r, hr, rfl⟩
  · exact hf.others r.vlan hj

theorem Arranged.same (ha : b.Arranged t bridgeName) (hvlans : c.vlans = b.vlans)
    (hbusy : c.ports.busy = b.ports.busy)
    (hports : ∀ j p, b.ports.port? j = some p →
      ∃ q, c.ports.port? j = some q ∧ q.name = p.name ∧ q.pvid = p.pvid) :
    c.Arranged t bridgeName := by
  have hplaced : ∀ {j other pvid place}, b.Placed j other pvid place → c.Placed j other pvid place := by
    rintro j other pvid place ⟨⟨p, hp, rfl, rfl⟩, hstanding⟩
    obtain ⟨q, hq, hname, hpvid⟩ := hports j p hp
    refine ⟨⟨q, hq, hname, hpvid⟩, ?_⟩
    rw [hvlans]
    exact hstanding
  refine ⟨?_, hplaced ha.localPlaced, ?_, ?_⟩
  · intro j
    rw [hbusy]
    exact ha.filled j
  · intro n name hn
    obtain ⟨j, hj, place, hp, hsettles⟩ := ha.placed n name hn
    exact ⟨j, hj, place, hplaced hp, hsettles⟩
  · rw [hvlans]
    exact ha.vlans

end Bridge

/-! ### Ports that are the same again -/

theorem PortSet.insert_erase {s : PortSet} {i : PortIndex} (h : i ∈ s) : (s.erase i).insert i = s := by
  ext j
  rw [mem_insert, mem_erase]
  by_cases hj : j = i
  · subst hj
    exact iff_of_true (Or.inl rfl) h
  · simp only [hj, ne_eq, not_false_eq_true, true_and, false_or]

namespace PortTable

variable {t : PortTable} {i : PortIndex}

/-- The table in which a port has been replaced by its like, of the next generation. -/
def renew (t : PortTable) (i : PortIndex) : PortTable :=
  (t.modify i fun p => { p with generation := p.generation + 1 }).nextGeneration i

theorem port?_renew (t : PortTable) (i j : PortIndex) : (t.renew i).port? j =
    if i = j then (t.port? j).map fun p => { p with generation := p.generation + 1 }
    else t.port? j :=
  t.port?_modify i j _

/-- A device's port that is taken out and put back, and gets the VLAN for its frames that it had. -/
theorem renew_eq {name : String} {id : DeviceId} {pvid : Vid} (hbusy : i ∈ t.busy)
    (hactive : i ∈ t.active) (hp : t.port? i = some ⟨i, t.generation i, name, .device id, pvid, {}⟩)
    {g : Vid → Vid} (hg : g Vid.zero = pvid) :
    (((((t.clear i).free i).install i name (.device id) {}).1.activate i).modify i
      fun p => { p with pvid := g p.pvid }) = t.renew i := by
  let fresh : Port := ⟨i, t.generation i + 1, name, .device id, Vid.zero, {}⟩
  let filled : PortTable := { t with slots := t.slots.set i (some fresh) }
  have hbusy' : (t.busy.erase i).insert i = t.busy := PortSet.insert_erase hbusy
  have hactive' : (t.active.erase i).insert i = t.active := PortSet.insert_erase hactive
  have hback : (((t.clear i).free i).install i name (.device id) {}).1.activate i =
      filled.nextGeneration i := by
    simp only [install, activate, clear, free, Vector.set_set, hbusy', hactive']
    rfl
  have hfresh : (filled.nextGeneration i).port? i = some fresh := Vector.getElem_set_self _
  rw [hback]
  unfold renew modify
  rw [hfresh, hp, ← hg]
  simp only [filled, nextGeneration, Vector.set_set]
  rfl

end PortTable

/-- What a topology has to be like so that each of its ports can be set up by the requests that concern
this port alone. -/
structure Topology.Feasible (t : Topology) (net : Network) : Prop where
  faultless : t.fault? = none
  distinct : (t.vlans.map (·.vid)).Nodup
  nonzero : ∀ v ∈ t.vlans, v.vid ≠ Vid.zero
  offers : ∀ name ∈ t.ports, net.Offers name

theorem Topology.Settles.eq {t : Topology} {port : String} {place place' : Vid → Standing}
    (h : t.Settles port place) (h' : t.Settles port place') {vid : Vid}
    (hvid : vid = Vid.zero ∨ vid ∈ t.vlans.map (·.vid)) : place' vid = place vid := by
  rcases hvid with rfl | hvid
  · rw [h.defaultVlan, h'.defaultVlan]
  · obtain ⟨v, hv, rfl⟩ := List.mem_map.1 hvid
    rw [h.planned v hv, h'.planned v hv]

namespace Bridge

variable {b c : Bridge} {i : PortIndex} {net : Network} {t : Topology} {bridgeName port : String}

/-- The bridge has been built from a topology over a network, as far as taking ports out and putting them
back makes use of it. -/
structure Renewable (b : Bridge) (t : Topology) (bridgeName : String) (net : Network) : Prop where
  reachable : b.Reachable
  arranged : b.Arranged t bridgeName
  furnished : b.Furnished net

/-- The bridge after a port has been taken out of a slot and its device has become the port in it again. -/
def reinstalled (b : Bridge) (i : PortIndex) (name : String) (id : DeviceId) (d : Device)
    (learning : Learning) : Bridge :=
  (b.emptied i learning (b.network.modifyDevice id Device.release)).installed i name id
    { d.release with master := some b.config.name }

/-- Below a port no slot is free, so its device becomes the port in the same slot again. -/
theorem Furnished.portDel_portAdd (hf : b.Furnished net) (hb : b.Reachable) {p : Port}
    (hp : b.ports.port? i = some p) (hlocal : i ≠ localPort) (hlower : ∀ j < i, j ∈ b.ports.busy)
    (hoffer : net.Offers p.name) :
    ∃ id d s, p.endpoint = .device id ∧ b.network.device? id = some d ∧ s.reclaimer.pending = 0 ∧
      b.handleAll [.portDel p.name, .portAdd p.name {}] =
        (b.reinstalled i p.name id d s, .ok ()) ∧
      (b.reinstalled i p.name id d s).Placed i p.name Vid.zero .fresh := by
  obtain ⟨hsound, hrecords⟩ := hb.sound_records
  obtain ⟨-, hdevice⟩ := hf.ports i p hp
  obtain ⟨id, hendpoint, hregistered⟩ := hdevice hlocal
  obtain ⟨id', d, hlookup, hlookup', hd, hadmissible⟩ := hf.network.exists_device hoffer
  cases hregistered.symm.trans hlookup
  obtain ⟨s, hdone, hdel⟩ := hsound.portDel_eq hf.waiting hp hlocal
  let e := b.emptied i s (b.network.modifyDevice id Device.release)
  have hnetwork : (b.releaseDevice p).network = b.network.modifyDevice id Device.release := by
    unfold releaseDevice Port.device?
    rw [hendpoint]
  have hout : b.handle (.portDel p.name) = (e, .ok .done) := by
    have hindex : b.portIndex p.name = .ok i := (portIndex_eq_ok_iff hrecords).2 ⟨p, hp, rfl⟩
    simp only [Bridge.handle, Bridge.onPort, hindex, hdel, hnetwork, answer, e]
  have he : e.Reachable := hb.handle hout
  have hports : ∀ j, e.ports.port? j = if i = j then none else b.ports.port? j :=
    fun j => b.ports.port?_clear i j
  have hempty : ¬ e.ports.Holds i := by
    rw [PortTable.Holds, hports, if_pos rfl]
    exact Bool.false_ne_true
  have hnew : ¬ e.HasPort p.name := by
    rintro ⟨j, q, hq, hname⟩
    rw [hports] at hq
    split at hq
    · cases hq
    · rename_i hij
      exact hij (hrecords.names i j p q hp hq hname.symm)
  have hfree : e.ports.busy.firstFree? = some i := by
    refine PortSet.firstFree?_of_forall_lt (fun h => (PortSet.mem_erase.1 h).1 rfl) fun j hj => ?_
    exact PortSet.mem_erase.2 ⟨Fin.ne_of_lt hj, hlower j hj⟩
  have hdev : e.network.device? id = some d.release := by
    show (b.network.modifyDevice id Device.release).device? id = _
    rw [Network.device?_modifyDevice, if_pos rfl, hd]
    rfl
  obtain ⟨r, hback⟩ := handle_portAdd he hnew hfree hlookup' hdev hadmissible
  refine ⟨id, d, s, hendpoint, hd, hdone, ?_, placed_installed he hempty _ _ _⟩
  rw [handleAll_cons hout, handleAll_cons hback]
  rfl

theorem reinstalled_vlans (b : Bridge) (i : PortIndex) (name : String) (id : DeviceId) (d : Device)
    (s : Learning) :
    ∃ f, Vlan.Concerns i f ∧ (b.reinstalled i name id d s).vlans = b.vlans.mapVlans f := by
  have hdetach : Vlan.Edit (some i) (·.detach i) := .detach i
  have hattach : Vlan.Edit (some i) (·.attach i false) := .attach i false
  refine ⟨_, hdetach.concerns.comp (hattach.concerns.only Vid.zero), ?_⟩
  show (b.vlans.mapVlans (·.detach i)).modify Vid.zero (·.attach i false) = _
  rw [VlanDb.modify_eq_mapVlans, VlanDb.mapVlans_mapVlans]

theorem sameDevices_reinstalled {id : DeviceId} {d : Device} (hd : b.network.device? id = some d)
    (i : PortIndex) (name : String) (s : Learning) :
    b.network.SameDevices (b.reinstalled i name id d s).network := by
  have hreleased : b.network.SameDevices (b.network.modifyDevice id Device.release) :=
    Network.sameDevices_modifyDevice fun _ _ => rfl
  refine hreleased.trans (Network.sameDevices_modifyDevice fun e he => ?_)
  rw [Network.device?_modifyDevice, if_pos rfl, hd] at he
  cases he
  rfl

/-- It does not matter of which generation the ports are. -/
theorem Renewable.same (h : b.Renewable t bridgeName net) (hc : c.Reachable)
    (hvlans : c.vlans = b.vlans) (hbusy : c.ports.busy = b.ports.busy)
    (hports : ∀ j, ∃ g : Nat → Nat, c.ports.port? j =
      (b.ports.port? j).map fun p => { p with generation := g p.generation })
    (hnetwork : b.network.SameDevices c.network) (hwaiting : c.OnlyEntriesWait) :
    c.Renewable t bridgeName net := by
  refine ⟨hc, h.arranged.same hvlans hbusy fun j p hp => ?_,
    h.furnished.network.trans hnetwork, fun j q hq => ?_, hwaiting⟩
  · obtain ⟨g, hg⟩ := hports j
    rw [hp] at hg
    exact ⟨_, hg, rfl, rfl⟩
  · obtain ⟨g, hg⟩ := hports j
    rw [hg] at hq
    obtain ⟨p, hp, rfl⟩ := Option.map_eq_some_iff.1 hq
    exact h.furnished.ports j p hp

theorem Furnished.port?_eq (hf : b.Furnished net) (hb : b.Reachable) {p : Port}
    (hp : b.ports.port? i = some p) : b.ports.port? i =
      some ⟨i, b.ports.generation i, p.name, p.endpoint, p.pvid, {}⟩ := by
  obtain ⟨-, hrecords⟩ := hb.sound_records
  have hindex := hrecords.index hp
  have hgeneration := hrecords.generation_eq hp
  have hingress := (hf.ports i p hp).1
  rw [hp]
  cases p
  simp only at hindex hgeneration hingress
  rw [hindex, hgeneration, hingress]

/-- A device's port that is back in its slot, with the VLAN for its frames that it had, is the port that was
there, of the next generation. -/
theorem Furnished.ports_eq (hf : b.Furnished net) (hb : b.Reachable) {p : Port}
    (hp : b.ports.port? i = some p) {id : DeviceId} (hendpoint : p.endpoint = .device id) {d : Device}
    {s : Learning} {place place' : Vid → Standing}
    (hfresh : (b.reinstalled i p.name id d s).Placed i p.name Vid.zero place)
    (hmoves : (b.reinstalled i p.name id d s).MovesOnly c i)
    (hplaced : c.Placed i p.name p.pvid place') : c.ports = b.ports.renew i := by
  have hsound := hb.sound
  have hheld : b.ports.Holds i := PortTable.holds_iff.2 ⟨p, hp⟩
  have hslot := hf.port?_eq hb hp
  rw [hendpoint] at hslot
  obtain ⟨g, hg⟩ := hmoves.port
  obtain ⟨q, hq, -, hown⟩ := hplaced.port
  obtain ⟨r, hr, -, hzero⟩ := hfresh.port
  rw [hg, PortTable.port?_modify, if_pos rfl, hr] at hq
  cases hq
  refine hg.trans (PortTable.renew_eq ((hsound.busy i).2 (Or.inl hheld))
    ((hsound.ports.active i).2 hheld) hslot ?_)
  rw [← hzero]
  exact hown

/-- The ports of the topology fill the slots above the local one. -/
theorem Arranged.slot_of_mem (ha : b.Arranged t bridgeName) (hport : port ∈ t.ports) :
    ∃ i place, i ≠ localPort ∧ (∀ j < i, j ∈ b.ports.busy) ∧
      b.Placed i port ((t.pvid? port).getD Vid.zero) place ∧ t.Settles port place := by
  obtain ⟨n, hn⟩ := List.mem_iff_getElem?.1 hport
  obtain ⟨hlength, -⟩ := List.getElem?_eq_some_iff.1 hn
  obtain ⟨i, hi, place, hplaced, hsettles⟩ := ha.placed n port hn
  refine ⟨i, place, ?_, fun j hj => ?_, hplaced, hsettles⟩
  · rintro rfl
    cases hi
  · have hj : j.val < i.val := hj
    exact (ha.filled j).2 (by omega)

/-- A port of the topology can be taken out and put back, and then the bridge is as it was. -/
theorem Renewable.renewal (h : b.Renewable t bridgeName net) (ht : t.Feasible net)
    (hport : port ∈ t.ports) :
    ∃ i c, b.handleAll (t.renewal port) = (c, .ok ()) ∧ b.portIndex port = .ok i ∧
      c.portIndex port = .ok i ∧ c.vlans = b.vlans ∧ c.ports = b.ports.renew i ∧
      c.Renewable t bridgeName net := by
  obtain ⟨i, place, hlocal, hlower, hplaced, hsettles⟩ := h.arranged.slot_of_mem hport
  obtain ⟨p, hp, rfl, hpvid⟩ := hplaced.port
  obtain ⟨id, d, s, hendpoint, hd, hdone, hback, hfresh⟩ :=
    h.furnished.portDel_portAdd h.reachable hp hlocal hlower (ht.offers _ hport)
  have he := h.reachable.handleAll hback
  obtain ⟨f, hf, hvlans⟩ := b.reinstalled_vlans i p.name id d s
  have hhas : ∀ vid, vid = Vid.zero ∨ vid ∈ t.vlans.map (·.vid) →
      (b.reinstalled i p.name id d s).vlans.Has vid := by
    intro vid hvid
    rw [hvlans, VlanDb.has_mapVlans hf.vid]
    exact (h.arranged.vlans vid).2 hvid
  obtain ⟨c, place', hsettle, hmoves, hplaced', hsettles'⟩ := hfresh.settle he ht.distinct ht.nonzero
    (hhas _ (Or.inl rfl)) (fun v hv => hhas _ (Or.inr (List.mem_map_of_mem hv)))
    fun vid hvid => hhas _
      ((Topology.fault?_eq_none_iff.1 ht.faultless).2 _ (Topology.mem_of_pvid? hvid)).2
  have hc := he.handleAll hsettle
  have hsame : c.vlans = b.vlans := by
    obtain ⟨g, hg, hdb⟩ := hmoves.db
    refine hplaced.vlans_eq hplaced' h.reachable.tidy (hf.comp hg) ?_ fun vid hvid =>
      hsettles.eq hsettles' ((h.arranged.vlans vid).1 hvid)
    rw [hdb, hvlans, VlanDb.mapVlans_mapVlans]
  have hports : c.ports = b.ports.renew i :=
    h.furnished.ports_eq h.reachable hp hendpoint hfresh hmoves (hpvid ▸ hplaced')
  refine ⟨i, c, (handleAll_append hback _).trans hsettle, hplaced.portIndex_eq h.reachable,
    hplaced'.portIndex_eq hc, hsame, hports, h.same hc hsame ?_ (fun j => ?_) ?_ ?_⟩
  · rw [hports]
    rfl
  · rw [hports, PortTable.port?_renew]
    split
    · exact ⟨(· + 1), rfl⟩
    · exact ⟨fun n => n, Option.map_id'.symm⟩
  · rw [hmoves.rest]
    exact sameDevices_reinstalled hd i p.name s
  · refine .of_pending ?_
    rw [hmoves.rest]
    exact hdone

end Bridge

/-! ### Bridges at work -/

/-- What happens to a bridge while its topology stays: frames come in, the ageing task does its work, and
ports of the topology are taken out and put back. -/
inductive Topology.Turn (t : Topology) where
  | receive (handle : Handle) (frame : Frame)
  | clock (now : Nat)
  | wake (now : Nat)
  | renew (port : String) (listed : port ∈ t.ports)

namespace Bridge

variable {b c : Bridge} {net : Network} {t : Topology} {bridgeName : String}

def turn (b : Bridge) : t.Turn → Bridge
  | .receive h f => (b.receive h f).1
  | .clock now => b.withLearning { b.toLearning with clock := now }
  | .wake now => b.wake now
  | .renew port _ => b.handleEach (t.renewal port)

def turns (b : Bridge) (ts : List t.Turn) : Bridge := ts.foldl turn b

theorem handleEach_of_handleAll {rs : List Request} (h : b.handleAll rs = (c, .ok ())) :
    b.handleEach rs = c := by
  induction rs generalizing b with
  | nil => exact congrArg Prod.fst h
  | cons r rs ih =>
    obtain ⟨d, a, hr, hrest⟩ := handleAll_cons_eq_ok h
    show ((b.handle r).1).handleEach rs = c
    rw [hr]
    exact ih hrest

theorem OnlyEntriesWait.wake_eq (h : b.OnlyEntriesWait) (ht : b.reclaimer.Tracks []) (now : Nat) :
    ∃ s : Learning, s.reclaimer.pending = 0 ∧
      b.wake now = { b.swept now with toLearning := s } := by
  let found := b.fdb.flushPort FlushFilter.aged none now
  have hwait : (b.swept now).OnlyEntriesWait := h.without found.1 found.2
  have htracks : (b.swept now).reclaimer.Tracks [] := tracks_without (b := b) ht found.1 found.2
  refine ⟨{ (b.swept now).toLearning with reclaimer := (b.swept now).reclaim.1.reclaimer },
    pending_reclaim htracks, ?_⟩
  rw [wake, hwait.reclaim_eq htracks]

theorem Renewable.turn (h : b.Renewable t bridgeName net) (ht : t.Feasible net) (turn : t.Turn) :
    (b.turn turn).Renewable t bridgeName net := by
  have hports : ∀ j, ∃ g : Nat → Nat, b.ports.port? j =
      (b.ports.port? j).map fun p => { p with generation := g p.generation } :=
    fun j => ⟨fun n => n, Option.map_id'.symm⟩
  cases turn with
  | receive handle f =>
    have hc : (b.receive handle f).1.Reachable := h.reachable.next (.receive handle f)
    show (b.receive handle f).1.Renewable t bridgeName net
    obtain ⟨table, network, counters, he, -, halike⟩ := receive_fst b handle f
    rw [he] at hc ⊢
    exact h.same hc rfl rfl hports halike.sameDevices h.furnished.waiting
  | clock now =>
    exact h.same (h.reachable.next (.clock now)) rfl rfl hports (.refl b.network)
      h.furnished.waiting
  | wake now =>
    have hc : (b.wake now).Reachable := h.reachable.next (.wake now)
    show (b.wake now).Renewable t bridgeName net
    obtain ⟨s, hdone, he⟩ := h.furnished.waiting.wake_eq h.reachable.sound.tracks now
    rw [he] at hc ⊢
    exact h.same hc rfl rfl hports (.refl b.network) (.of_pending hdone)
  | renew port hport =>
    obtain ⟨-, c, hall, -, -, -, -, hc⟩ := h.renewal ht hport
    show (b.handleEach (t.renewal port)).Renewable t bridgeName net
    rw [handleEach_of_handleAll hall]
    exact hc

theorem Renewable.turns (h : b.Renewable t bridgeName net) (ht : t.Feasible net)
    (ts : List t.Turn) : (b.turns ts).Renewable t bridgeName net := by
  induction ts generalizing b with
  | nil => exact h
  | cons turn ts ih => exact ih (h.turn ht turn)

end Bridge

/-- Whatever a bridge that was built from a topology has gone through since, each port of the topology can
be taken out and put back. Then it is in its slot, the VLANs are what they were, and of the ports nothing is
new but that this one is of the next generation. -/
theorem Scenario.renewals_restore_topology {s : Scenario} {network : Network}
    (hvalid : s.validate = .ok ()) (hfew : s.topology.ports.length ≤ 255)
    (hdistinct : s.topology.ports.Nodup) (hbridge : s.bridge.name ∉ s.topology.ports)
    (hvids : (s.topology.vlans.map (·.vid)).Nodup)
    (hzero : Vid.zero ∉ s.topology.vlans.map (·.vid))
    (hoffers : ∀ name ∈ s.topology.ports, network.Offers name) :
    ∃ b start, Bridge.create s.bridge network = .ok b ∧
      b.handleAll s.topology.requests = (start, .ok ()) ∧
      ∀ (ts : List s.topology.Turn), ∀ port ∈ s.topology.ports,
        let c := start.turns ts
        ∃ i d, c.handleAll (s.topology.renewal port) = (d, .ok ()) ∧
          c.portIndex port = .ok i ∧ d.portIndex port = .ok i ∧
          d.vlans = c.vlans ∧ d.ports = c.ports.renew i := by
  obtain ⟨hconfig, hfault, -⟩ := Scenario.validate_eq_ok_iff.1 hvalid
  have hnonzero : ∀ v ∈ s.topology.vlans, v.vid ≠ Vid.zero :=
    fun v hv h => hzero (List.mem_map.2 ⟨v, hv, h⟩)
  obtain ⟨b, hb⟩ := Bridge.exists_create hconfig network
  obtain ⟨start, hall, harranged⟩ :=
    Bridge.arranged_of_create hb hfault hfew hdistinct hbridge hvids hnonzero hoffers
  have hstart : start.Renewable s.topology s.bridge.name network :=
    ⟨(Bridge.Reachable.create hb).handleAll hall, harranged,
      (Bridge.furnished_of_create hb).handleAll (Topology.builds_requests hoffers) hall⟩
  have hfeasible : s.topology.Feasible network := ⟨hfault, hvids, hnonzero, hoffers⟩
  refine ⟨b, start, hb, hall, fun ts port hport => ?_⟩
  obtain ⟨i, d, hdone, hindex, hindex', hvlans, hports, -⟩ :=
    (hstart.turns hfeasible ts).renewal hfeasible hport
  exact ⟨i, d, hdone, hindex, hindex', hvlans, hports⟩

/-- The first of two ports has been taken out and put back once, a frame has come in at it under its new
handle, and the ageing task has been at work; then it is taken out and put back again. -/
theorem Scenario.renewals_restore_topology_two_ports :
    let ten : VlanPlan := { vid := ⟨10, by decide⟩, untagged := ["eth0"], exclusive := true }
    let twenty : VlanPlan := {
      vid := ⟨20, by decide⟩, untagged := ["eth0"], tagged := ["eth0", "eth1"] }
    let t : Topology := {
      ports := ["eth0", "eth1"], vlans := [ten, twenty], pvids := [("eth0", ten.vid)] }
    let hello := Frame.ethernet Mac.broadcast ⟨2, 0, 0, 0, 0, 9⟩ EtherType.ipv4 []
    let b := Bridge.beside ["eth0", "eth1"]
    let c := (b.handleAll t.requests).1.turns (t := t)
      [.renew "eth0" (by decide), .receive ⟨1, 2⟩ hello, .wake 1]
    Bridge.create {} b.network = .ok b ∧ (b.handleAll t.requests).2 = .ok () ∧
      c.fdb.entries.length = 1 ∧ c.portIndex "eth0" = .ok 1 ∧
      ∃ d, c.handleAll (t.renewal "eth0") = (d, .ok ()) ∧ d.portIndex "eth0" = .ok 1 ∧
        d.vlans = c.vlans ∧ d.ports = c.ports.renew 1 := by
  intro ten twenty t hello b c
  have hcreate : Bridge.create {} b.network = .ok b := rfl
  have hvalid : ({ topology := t } : Scenario).validate = .ok () := by decide +kernel
  have hoffers : ∀ name ∈ t.ports, b.network.Offers name := by
    intro name hname
    rcases List.mem_cons.1 hname with rfl | hname
    · exact ⟨0, _, by decide +kernel, rfl, ⟨rfl, rfl, by decide +kernel, rfl, rfl, rfl⟩⟩
    · cases List.mem_singleton.1 hname
      exact ⟨1, _, by decide +kernel, rfl, ⟨rfl, rfl, by decide +kernel, rfl, rfl, rfl⟩⟩
  have hdone : (b.handleAll t.requests).2 = .ok () := by decide +kernel
  have hlearned : c.fdb.entries.length = 1 := by decide +kernel
  have hslot : c.portIndex "eth0" = .ok 1 := by decide +kernel
  obtain ⟨b', start, hb, hall, hrenew⟩ := renewals_restore_topology hvalid (by decide)
    (by decide +kernel) (by decide +kernel) (by decide +kernel) (by decide +kernel) hoffers
  cases hcreate.symm.trans hb
  have hstart : (b.handleAll t.requests).1 = start := congrArg Prod.fst hall
  obtain ⟨i, d, hd, hindex, hindex', hvlans, hports⟩ := hrenew
    [.renew "eth0" (by decide), .receive ⟨1, 2⟩ hello, .wake 1] "eth0" (by decide)
  rw [← hstart] at hd hindex hvlans hports
  cases hslot.symm.trans hindex
  exact ⟨hcreate, hdone, hlearned, hslot, d, hd, hindex', hvlans, hports⟩

end VlanBridge
