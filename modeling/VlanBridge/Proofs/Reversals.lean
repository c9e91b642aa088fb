import VlanBridge.Proofs.FramesInFlight
import VlanBridge.Proofs.Integrity
import VlanBridge.Proofs.VlanHistories
/-!
# Deleting what was just added

Deleting works by number: a port is taken out of every VLAN and every entry that mentions its slot, and
the entries and the ports that refer to a VLAN lose it. A slot that was free and a VLAN that was not there
are mentioned nowhere (`Integrity`), so for a port or a VLAN that has just been added each of these steps
is undone exactly. With no frame in flight the release runs at once, and what is left to tell that
something was there is the generation of the slot, or the number of records ever made.
-/

namespace VlanBridge

open VlanBridge.Net

namespace PortSet

variable {s : PortSet} {i : PortIndex}

theorem erase_of_not_mem (h : i ∉ s) : s.erase i = s := by
  ext j
  rw [mem_erase]
  exact ⟨And.right, fun hj => ⟨fun e => h (e ▸ hj), hj⟩⟩

theorem erase_insert (s : PortSet) (i : PortIndex) : (s.insert i).erase i = s.erase i := by
  ext j
  rw [mem_erase, mem_erase, mem_insert]
  exact and_congr_right fun hne => or_iff_right hne

theorem erase_set (s : PortSet) (i : PortIndex) (present : Bool) :
    (s.set i present).erase i = s.erase i := by
  ext j
  rw [mem_erase, mem_erase, mem_set]
  refine and_congr_right fun hne => ?_
  rw [if_neg hne]

end PortSet

/-! ### VLANs -/

namespace Vlan

variable {v : Vlan} {i : PortIndex}

theorem detach_of_not_mentions (h : ¬ v.Mentions i) : v.detach i = v := by
  obtain ⟨hmember, htagged, hflood, hrouter⟩ : i ∉ v.members ∧ i ∉ v.tagged ∧ (∀ c, i ∉ v.flood c) ∧
      i ∉ v.routers := by simpa only [Mentions, not_or, not_exists] using h
  have hunicast : i ∉ v.unicastFlood := hflood .unicast
  have hmulticast : i ∉ v.multicastFlood := hflood .multicast
  have hbroadcast : i ∉ v.broadcastFlood := hflood .broadcast
  unfold detach
  rw [PortSet.erase_of_not_mem hmember, PortSet.erase_of_not_mem htagged,
    PortSet.erase_of_not_mem hunicast, PortSet.erase_of_not_mem hmulticast,
    PortSet.erase_of_not_mem hbroadcast, PortSet.erase_of_not_mem hrouter]

theorem detach_attach (v : Vlan) (i : PortIndex) (tagged : Bool) :
    (v.attach i tagged).detach i = v.detach i := by
  unfold attach detach
  split <;> simp only [PortSet.erase_insert, PortSet.erase_set]

end Vlan

namespace VlanDb

variable {db u : VlanDb} {vid : Vid} {i : PortIndex}

/-- A port that is in no VLAN joins one and is taken out of all of them. -/
theorem detachAll_modify_attach (h : ∀ r ∈ db.published, ¬ r.vlan.Mentions i) (vid : Vid)
    (tagged : Bool) : ((db.modify vid (·.attach i tagged)).detachAll i).1 = db := by
  have htwice : ((db.modify vid (·.attach i tagged)).detachAll i).1 =
      db.mapVlans fun v => (if v.vid = vid then v.attach i tagged else v).detach i := by
    rw [modify_eq_mapVlans]
    simp only [detachAll, mapVlans, List.map_map]
    rfl
  rw [htwice]
  refine mapVlans_eq_self fun r hr => ?_
  have hout := Vlan.detach_of_not_mentions (h r hr)
  split
  · rw [Vlan.detach_attach, hout]
  · exact hout

/-- A VLAN that is made and deleted leaves nothing behind once its record has been discarded. -/
theorem Sound.delete_create (hd : db.Sound) (hzero : vid ≠ Vid.zero) {learning : Bool}
    (h : db.create vid learning = .ok u) :
    ∃ w gone, u.delete vid = .ok (w, gone) ∧
      w.discard gone.serial = { db with created := db.created + 1 } := by
  obtain ⟨hnew, rfl⟩ := create_eq_ok h
  have hother : ∀ r ∈ db.published, r.vlan.vid ≠ vid := fun r hr e => hnew (has_iff.2 ⟨r, hr, e⟩)
  let made : VlanRecord := ⟨db.created, { vid, learning }⟩
  let u : VlanDb := { db with
    published := Ordered.insert rank made db.published, created := db.created + 1 }
  have hfind : u.find? vid = some made := by
    obtain ⟨r, hr⟩ := Option.isSome_iff_exists.1
      (has_iff.2 ⟨made, Ordered.mem_insert_self, rfl⟩ : u.Has vid)
    rcases Ordered.mem_of_mem_insert (mem_of_find? hr) with rfl | hold
    · exact hr
    · exact absurd (find?_vid hr) (hother r hold)
  have hlist : (Ordered.insert rank made db.published).filter (·.vlan.vid != vid) = db.published := by
    refine Ordered.filter_insert_of_new (bne_self_eq_false vid) fun r hr => ⟨fun e => ?_, ?_⟩
    · exact hother r hr (Vid.ext e).symm
    · exact bne_iff_ne.2 (hother r hr)
  have hkept : (made :: db.withdrawn).filter (·.serial != made.serial) = db.withdrawn := by
    rw [List.filter_cons_of_neg (by simp), List.filter_eq_self]
    intro r hr
    have hlt := hd.fresh r.serial (List.mem_map_of_mem (List.mem_append_right _ hr))
    exact bne_iff_ne.2 (Nat.ne_of_lt hlt)
  refine ⟨{ u with published := db.published, withdrawn := made :: db.withdrawn }, made, ?_, ?_⟩
  · unfold VlanDb.delete
    rw [if_neg (mt Vid.isZero_iff.1 hzero), hfind]
    exact congrArg (fun records => Except.ok
      (({ u with published := records, withdrawn := made :: db.withdrawn } : VlanDb), made)) hlist
  · unfold VlanDb.discard
    rw [hkept]

end VlanDb

/-! ### Ports -/

namespace PortTable

variable {t : PortTable} {i : PortIndex}

/-- The table that another port has passed through a slot of. -/
def nextGeneration (t : PortTable) (i : PortIndex) : PortTable :=
  { t with generations := t.generations.set i.val (t.generation i + 1) i.isLt }

theorem free_clear_install (hnone : t.port? i = none) (hbusy : i ∉ t.busy) (hactive : i ∉ t.active)
    (name : String) (endpoint : Endpoint) (ingress : IngressDefaults) :
    (((t.install i name endpoint ingress).1.activate i).clear i).free i = t.nextGeneration i := by
  have hslots : ∀ p, (t.slots.set i (some p)).set i none = t.slots := by
    intro p
    rw [Vector.set_set, ← hnone]
    exact Vector.set_getElem_self _
  have hbusy' : (t.busy.insert i).erase i = t.busy := by
    rw [PortSet.erase_insert, PortSet.erase_of_not_mem hbusy]
  have hactive' : (t.active.insert i).erase i = t.active := by
    rw [PortSet.erase_insert, PortSet.erase_of_not_mem hactive]
  simp only [install, activate, clear, free, hslots, hbusy', hactive']
  rfl

theorem mapPorts_eq_self {f : Port → Port} (h : ∀ i p, t.port? i = some p → f p = p) :
    t.mapPorts f = t := by
  have hslots : t.slots.map (Option.map f) = t.slots := by
    refine Vector.ext fun n hn => ?_
    rw [Vector.getElem_map]
    cases hp : t.slots[n] with
    | none => rfl
    | some p => exact congrArg some (h ⟨n, hn⟩ p hp)
  unfold mapPorts
  rw [hslots]

end PortTable

/-! ### Devices -/

theorem Network.modifyDevice_release {net : Network} {id : DeviceId} {d e : Device} {master : String}
    (hd : net.device? id = some d) (h : d.enslave master = .ok e) :
    (net.modifyDevice id fun _ => e).modifyDevice id Device.release = net := by
  have hsame : (net.devices.modify id fun _ => e).modify id Device.release = net.devices := by
    refine Array.ext_getElem? fun n => ?_
    rw [Array.getElem?_modify, Array.getElem?_modify]
    split
    · rename_i hn
      have hd : net.devices[n]? = some d := hn ▸ hd
      rw [hd]
      exact congrArg some (Device.release_enslave h)
    · rfl
  unfold modifyDevice
  rw [hsame]

/-! ### Entries -/

namespace Fdb

variable {t : Fdb}

/-- A flush that meets no entry leaves the table alone. -/
theorem flushPort_of_not_hit {f : FlushFilter} {port : Option PortIndex} {now : Int}
    (h : ∀ e ∈ t.entries, t.isHit f port (stamp now) e = false) : t.flushPort f port now = (t, []) := by
  have hkept : ∀ e ∈ t.entries, t.flushed? f port (stamp now) e = some e := by
    intro e he
    rw [flushed?, h e he, if_neg Bool.false_ne_true]
  have hall : t.entries.filterMap (t.flushed? f port (stamp now)) = t.entries :=
    (List.filterMap_congr hkept).trans List.filterMap_some
  have hnone : (t.entries.filter fun e => (t.flushed? f port (stamp now) e).isNone) = [] := by
    refine List.filter_eq_nil_iff.2 fun e he => ?_
    rw [hkept e he]
    exact Bool.false_ne_true
  unfold flushPort
  simp only [hall, hnone, List.map_nil, ite_self]

end Fdb

theorem Learning.flushPort_of_not_hit {s : Learning} {f : FlushFilter} {port : Option PortIndex}
    {now : Int} (h : ∀ e ∈ s.fdb.entries, s.fdb.isHit f port (stamp now) e = false) :
    s.flushPort f port now = (s, []) := by
  unfold flushPort
  rw [Fdb.flushPort_of_not_hit h]
  rfl

theorem Learning.tally_zero (s : Learning) (c : Counter) : s.tally c 0 = s := by
  have hsame : s.counters.add c (UInt64.ofNat 0) = s.counters := by
    refine Counters.ext_get fun d => ?_
    rw [Counters.get_add]
    split
    · exact UInt64.add_zero _
    · rfl
  unfold tally
  rw [hsame]

namespace Bridge

variable {b c : Bridge} {i : PortIndex}

theorem flushDeletedPort_eq_self (h : ∀ e ∈ b.fdb.entries, i ∈ e.ports →
    e.origin = .dynamic ∧ b.config.flushOnPortDel = false) : b.flushDeletedPort i = b := by
  have hmiss : ∀ f : FlushFilter,
      (∀ e ∈ b.fdb.entries, i ∈ e.ports → ∀ now, e.covered f b.fdb.ageing now = false) →
        b.toLearning.flushPort f (some i) b.clock = (b.toLearning, []) := by
    intro f hf
    refine Learning.flushPort_of_not_hit fun e he => ?_
    by_cases hp : i ∈ e.ports
    · simp only [Fdb.isHit, hf e he hp, Bool.false_and]
    · simp only [Fdb.isHit, Entry.sendsTo, hp, decide_false, Bool.and_false]
  have hstatic : ∀ o : Origin, o ≠ .dynamic →
      b.toLearning.flushPort { origin := some o } (some i) b.clock = (b.toLearning, []) := by
    intro o ho
    refine hmiss _ fun e he hp now => ?_
    have hne : (o == e.origin) = false := by
      rw [(h e he hp).1]
      exact beq_false_of_ne ho
    simp only [Entry.covered, Option.all_some, hne, Bool.and_false, Bool.false_and]
  unfold flushDeletedPort
  split
  · rename_i hflush
    rw [hmiss _ fun e he hp => absurd ((h e he hp).2.symm.trans hflush) Bool.false_ne_true]
    exact congrArg b.withLearning (b.toLearning.tally_zero .flushed)
  · rw [hstatic .external (by decide)]
    simp only [hstatic .user (by decide)]
    exact congrArg b.withLearning (b.toLearning.tally_zero .flushed)

/-- The port that is added is deleted at once. -/
theorem Sound.portDel_portAdd (hs : b.Sound) (hi : b.Integrity)
    (hr : b.ports.Records b.config.name) (hnone : b.reclaimer.pending = 0) {id : DeviceId}
    {ingress : IngressDefaults} {h : Handle} (hok : (b.portAdd id ingress).2 = .ok h) :
    ∃ (i : PortIndex) (r : Reclaimer Release), h.index = i.val ∧ r.pending = 0 ∧
      (b.portAdd id ingress).1.portDel h.index =
        ({ b with ports := b.ports.nextGeneration i, reclaimer := r }, .ok ()) := by
  obtain ⟨i, d, e, hfree, hd, henslave, rfl, hjoined⟩ := portAdd_eq_joined hok
  have hempty := (hs.of_firstFree? hfree).1
  have hunused : ¬ b.ports.Holds i := by
    rw [PortTable.Holds, hempty]
    exact Bool.false_ne_true
  have hbusy := PortSet.firstFree?_eq_some hfree
  have hactive : i ∉ b.ports.active := fun h => hunused ((hs.ports.active i).1 h)
  have hlocal : i ≠ localPort := by
    rintro rfl
    obtain ⟨p, hp, -⟩ := hr.localRecord
    cases hempty.symm.trans hp
  have hport := PortTable.port?_install b.ports i i d.name (.device id) ingress
  rw [if_pos rfl] at hport
  have hremove := PortTable.remove_of_port?
    (t := (b.ports.install i d.name (.device id) ingress).1.activate i) hlocal hport
  have hvlans := VlanDb.detachAll_modify_attach
    (fun r hr hm => hunused (hi.vlanPorts r hr i hm)) Vid.zero false
  have hentries : ∀ e ∈ b.fdb.entries, i ∈ e.ports →
      e.origin = .dynamic ∧ b.config.flushOnPortDel = false := by
    intro e he hm
    have hstale := mt (hi.entryPorts e he) fun h => hunused (h i hm)
    simpa using hstale
  have hnetwork := Network.modifyDevice_release hd henslave
  have hports := PortTable.free_clear_install hempty hbusy hactive d.name (.device id) ingress
  let port := (b.ports.install i d.name (.device id) ingress).2
  -- the bridge without the port, before and after its device is released
  let emptied : Bridge := { b with
    ports := ((b.ports.install i d.name (.device id) ingress).1.activate i).clear i }
  let enslaved : Bridge := { emptied with network := b.network.modifyDevice id fun _ => e }
  have hflush : enslaved.flushDeletedPort i = enslaved := flushDeletedPort_eq_self hentries
  have hrelease : enslaved.releaseDevice port = emptied :=
    congrArg (fun network => ({ emptied with network } : Bridge)) hnetwork
  obtain ⟨r, hdone, hretire⟩ :=
    (OnlyEntriesWait.of_pending (b := emptied) hnone).retire_eq hs.tracks (.slot i)
  refine ⟨i, r, rfl, hdone, ?_⟩
  rw [hjoined]
  unfold portDel
  simp only [joinDefaultVlan, hremove]
  show (((({ enslaved with
    vlans := ((b.vlans.modify Vid.zero (·.attach i false)).detachAll i).1 } :
      Bridge).flushDeletedPort i).releaseDevice port).retire (.slot i), _) = _
  rw [hvlans]
  show (((enslaved.flushDeletedPort i).releaseDevice port).retire (.slot i), _) = _
  rw [hflush, hrelease, hretire, ← hports]
  rfl

/-- The VLAN that is made is deleted at once. -/
theorem Sound.vlanDel_vlanAdd (hs : b.Sound) (hi : b.Integrity) (hnone : b.reclaimer.pending = 0)
    {vid : Vid} (hok : b.vlanAdd vid = (c, .ok ())) :
    ∃ r : Reclaimer Release, r.pending = 0 ∧ c.vlanDel vid =
      ({ b with vlans := { b.vlans with created := b.vlans.created + 1 }, reclaimer := r },
        .ok ()) := by
  unfold vlanAdd withVlans at hok
  split at hok
  · rename_i u hcreate
    cases hok
    have hnew := (VlanDb.create_eq_ok hcreate).1
    have hzero : vid ≠ Vid.zero := by
      rintro rfl
      exact hnew hi.defaultVlan
    obtain ⟨w, gone, hdelete, hdiscard⟩ := hs.vlans.delete_create hzero hcreate
    have hports : b.ports.mapPorts (fun p => if p.pvid = vid then { p with pvid := Vid.zero } else p) =
        b.ports := by
      refine PortTable.mapPorts_eq_self fun i p hp => if_neg ?_
      rintro rfl
      exact hnew (hi.portVlans i p hp)
    have hflush : b.toLearning.flushPort { vid := some vid } none b.clock = (b.toLearning, []) := by
      refine Learning.flushPort_of_not_hit fun e he => ?_
      have hother : (vid == e.key.vid) = false := by
        refine beq_false_of_ne ?_
        rintro rfl
        exact hnew (hi.entryVlans e he)
      simp only [Fdb.isHit, Entry.covered, Option.all_some, hother, Bool.false_and]
    let deleted : Bridge := { b with vlans := w }
    obtain ⟨r, hdone, hretire⟩ :=
      (OnlyEntriesWait.of_pending (b := deleted) hnone).retire_eq hs.tracks (.vlan gone.serial)
    refine ⟨r, hdone, ?_⟩
    unfold vlanDel
    simp only [hdelete, hports, hflush]
    show (({ deleted with toLearning := b.toLearning.tally .flushed 0 } : Bridge).retire _, _) = _
    rw [b.toLearning.tally_zero]
    show (deleted.retire _, _) = _
    rw [hretire, ← hdiscard]
    rfl
  · cases hok

end Bridge

namespace Transit

variable {s : Transit}

theorem Reachable.integrity (hs : s.Reachable) : s.bridge.Integrity :=
  hs.induction Bridge.integrity_of_create (fun hsound hi h => hi.transition hsound h)
    fun _ hi => hi.same rfl (fun _ => rfl) rfl rfl

theorem Reachable.records (hs : s.Reachable) : s.bridge.ports.Records s.bridge.config.name := by
  refine hs.induction (P := fun b => b.ports.Records b.config.name) ?_ ?_ fun _ hr => hr
  · intro config network b h
    rw [Bridge.create_eq_ok h]
    exact .ofName config.name
  · intro b c guards hsound hr h
    rw [h.config_eq]
    exact hr.change (h.change hsound)

/-- With no frame in flight and nothing waiting for its release, a port that is added can be deleted right
after, and so can a VLAN. Of the port nothing is left but that its slot has had one more generation, and of
the VLAN that one more record was made. -/
theorem undone_at_rest (hs : s.Reachable) (hheld : s.held = [])
    (hpending : s.bridge.reclaimer.pending = 0) :
    let b := s.bridge
    (∀ id ingress c h, b.portAdd id ingress = (c, .ok h) →
      ∃ (i : PortIndex) (r : Reclaimer Release), h.index = i.val ∧ r.pending = 0 ∧
        c.portDel h.index =
          ({ b with ports := b.ports.nextGeneration i, reclaimer := r }, .ok ())) ∧
    ∀ vid c, b.vlanAdd vid = (c, .ok ()) →
      ∃ r : Reclaimer Release, r.pending = 0 ∧ c.vlanDel vid =
        ({ b with vlans := { b.vlans with created := b.vlans.created + 1 }, reclaimer := r },
          .ok ()) := by
  intro b
  have hsound : b.Sound := by
    have hsound : b.Sound (s.held.map (·.guard)) := hs.sound
    rw [hheld] at hsound
    exact hsound
  refine ⟨?_, ?_⟩
  · intro id ingress c h hadd
    have hok : (b.portAdd id ingress).2 = .ok h := by rw [hadd]
    obtain ⟨i, r, hindex, hdone, hdel⟩ :=
      hsound.portDel_portAdd hs.integrity hs.records hpending hok
    rw [hadd] at hdel
    exact ⟨i, r, hindex, hdone, hdel⟩
  · exact fun vid c hadd => hsound.vlanDel_vlanAdd hs.integrity hpending hadd

/-- The settings keep the address that was learned at a port which has gone. Its slot is free, and the next
port that comes and goes there leaves that entry alone, as a VLAN does. -/
theorem undone_at_rest_kept_entry :
    let network := (Bridge.beside ["eth0", "eth1"]).network
    let start : Transit := {
      bridge := { Bridge.beside ["eth0", "eth1"] with config := { flushOnPortDel := false } } }
    let hello := Frame.ethernet Mac.broadcast ⟨2, 0, 0, 0, 0, 9⟩ EtherType.ipv4 []
    let s := start.run [.event (.request (.portAdd "eth0" {})), .pin, .event (.receive ⟨1, 1⟩ hello),
      .event (.request (.portDel "eth0")), .drop ⟨0, ⟨0⟩⟩, .event (.perform .reclaim trivial)]
    let b := s.bridge
    let seven : Vid := ⟨7, by decide⟩
    Bridge.create { flushOnPortDel := false } network = .ok start.bridge ∧
      s.held = [] ∧ b.reclaimer.pending = 0 ∧ b.fdb.entries.map (·.ports) = [PortSet.singleton 1] ∧
      (b.portAdd 1 {}).2 = .ok ⟨1, 2⟩ ∧ (b.vlanAdd seven).2 = .ok () ∧
      (∃ r : Reclaimer Release, (b.portAdd 1 {}).1.portDel 1 =
        ({ b with ports := b.ports.nextGeneration 1, reclaimer := r }, .ok ())) ∧
      ∃ r : Reclaimer Release, (b.vlanAdd seven).1.vlanDel seven =
        ({ b with vlans := { b.vlans with created := b.vlans.created + 1 }, reclaimer := r },
          .ok ()) := by
  intro network start hello s b seven
  have hstart : Bridge.create { flushOnPortDel := false } network = .ok start.bridge := rfl
  have hs : s.Reachable := (Reachable.create hstart).run _
  obtain ⟨hheld, hpending, hentries, hport, hvlan⟩ : s.held = [] ∧ b.reclaimer.pending = 0 ∧
      b.fdb.entries.map (·.ports) = [PortSet.singleton 1] ∧ (b.portAdd 1 {}).2 = .ok ⟨1, 2⟩ ∧
      (b.vlanAdd seven).2 = .ok () := by decide +kernel
  clear_value s
  obtain ⟨hports, hvlans⟩ := undone_at_rest hs hheld hpending
  obtain ⟨i, r, hindex, -, hdel⟩ := hports 1 {} (b.portAdd 1 {}).1 ⟨1, 2⟩ (Prod.ext rfl hport)
  obtain ⟨q, -, hgone⟩ := hvlans seven (b.vlanAdd seven).1 (Prod.ext rfl hvlan)
  have hone : i = 1 := Fin.ext hindex.symm
  subst hone
  exact ⟨hstart, hheld, hpending, hentries, hport, hvlan, ⟨r, hdel⟩, q, hgone⟩

end Transit

end VlanBridge
