import VlanBridge.Proofs.Additions
import VlanBridge.Proofs.Admissions
import VlanBridge.Proofs.Reversals
/-!
# Deleting a VLAN

A deletion takes a VLAN out of the database, the entries of the VLAN out of the forwarding table, and the
ports that sent into it by default back to VLAN 0. `WithoutVlan` is all that changes. Until the VLAN is made
again nothing can refer to it (`Integrity`), so a frame that is classified to it teaches nothing and goes
nowhere.
-/

namespace VlanBridge

open VlanBridge.Net

namespace Fdb

/-- A flush of a VLAN takes out its entries, whatever they are. -/
theorem flushPort_vid (t : Fdb) (vid : Vid) (now : Int) :
    t.flushPort { vid := some vid } none now =
      ({ t with entries := t.entries.filter (·.key.vid != vid) },
        t.entries.filter (·.key.vid == vid)) := by
  have hone : ∀ e, t.flushed? { vid := some vid } none (stamp now) e =
      if e.key.vid = vid then none else some e := by
    intro e
    by_cases he : e.key.vid = vid
    · rw [if_pos he]
      exact flushed?_none_of_covered (by simp [Entry.covered, he])
    · have hne : ¬ vid = e.key.vid := fun h => he h.symm
      rw [if_neg he]
      simp [flushed?, isHit, Entry.covered, hne]
  have hfilter : ∀ es : List Entry,
      es.filterMap (fun e => if e.key.vid = vid then none else some e) =
        es.filter (·.key.vid != vid) := by
    intro es
    rw [← List.filterMap_eq_filter]
    refine List.filterMap_congr fun e _ => ?_
    by_cases he : e.key.vid = vid <;> simp [he, Option.guard]
  unfold flushPort
  simp only [hone, hfilter]
  refine congrArg (Prod.mk _) (List.filter_congr fun e _ => ?_)
  by_cases he : e.key.vid = vid <;> simp [he]

end Fdb

namespace VlanDb

variable {db : VlanDb} {vid : Vid}

theorem exists_delete (hzero : vid ≠ Vid.zero) (hv : db.Has vid) :
    ∃ u gone, db.delete vid = .ok (u, gone) := by
  obtain ⟨r, hr⟩ := Option.isSome_iff_exists.1 hv
  unfold delete
  rw [if_neg (mt Vid.isZero_iff.1 hzero), hr]
  exact ⟨_, _, rfl⟩

/-- The other VLANs are found as before. -/
theorem find?_filter_ne (rs : List VlanRecord) {other : Vid} (hother : other ≠ vid) :
    (rs.filter (·.vlan.vid != vid)).find? (·.vlan.vid == other) =
      rs.find? (·.vlan.vid == other) := by
  rw [List.find?_filter]
  congr 1
  funext r
  by_cases hr : r.vlan.vid = other
  · simp [hr, hother]
  · simp [hr]

end VlanDb

namespace Bridge

variable {b c : Bridge} {vid : Vid}

/-- A VLAN is gone, its entries are and have been counted, and the ports that sent into it by default send
into VLAN 0; nothing else is different. -/
structure WithoutVlan (vid : Vid) (b c : Bridge) : Prop where
  vlan : c.vlans.vlan? vid = none
  others : ∀ other, other ≠ vid → c.vlans.vlan? other = b.vlans.vlan? other
  list : c.vlans.list = b.vlans.list.filter (·.vid != vid)
  ports : ∀ i, c.ports.port? i = (b.ports.port? i).map fun p =>
    if p.pvid = vid then { p with pvid := Vid.zero } else p
  generation : ∀ i, c.ports.generation i = b.ports.generation i
  active : c.ports.active = b.ports.active
  fdb : c.fdb = { b.fdb with entries := b.fdb.entries.filter (·.key.vid != vid) }
  counters : c.counters = { b.counters with
    flushed := b.counters.flushed + UInt64.ofNat (b.fdb.entries.countP (·.key.vid == vid)) }
  config : c.config = b.config
  network : c.network = b.network
  clock : c.clock = b.clock
  trap : c.trap = b.trap
  nextSweep : c.nextSweep = b.nextSweep

theorem vlanDel_without (hzero : vid ≠ Vid.zero) (hv : b.vlans.Has vid) :
    (b.vlanDel vid).2 = .ok () ∧ b.WithoutVlan vid (b.vlanDel vid).1 := by
  obtain ⟨u, gone, hdelete⟩ := VlanDb.exists_delete hzero hv
  obtain ⟨-, r, -, -, hu⟩ := VlanDb.delete_eq_ok hdelete
  have hflush : b.toLearning.flushPort { vid := some vid } none b.clock =
      (b.toLearning.without { b.fdb with entries := b.fdb.entries.filter (·.key.vid != vid) }
        (b.fdb.entries.filter (·.key.vid == vid)), b.fdb.entries.filter (·.key.vid == vid)) := by
    unfold Learning.flushPort
    rw [b.fdb.flushPort_vid]
  unfold vlanDel
  simp only [hdelete, hflush, ← List.countP_eq_length_filter]
  refine ⟨trivial, ?_⟩
  generalize hc : retire _ _ = c
  obtain ⟨hfdb, hcounters, hclock, hconfig, hnetwork, htrap, hsweep, hport, hgeneration, hactive,
    hpublished⟩ := hc ▸ housekeeping_retire _ _
  have hrecords : c.vlans.published = b.vlans.published.filter (·.vlan.vid != vid) :=
    hpublished.trans (congrArg VlanDb.published hu)
  refine ⟨?_, fun other hother => ?_, ?_, fun i => ?_, hgeneration, hactive, hfdb, hcounters, hconfig,
    hnetwork, hclock, htrap, hsweep⟩
  · unfold VlanDb.vlan? VlanDb.find?
    rw [hrecords, List.find?_filter]
    simp
  · unfold VlanDb.vlan? VlanDb.find?
    rw [hrecords, VlanDb.find?_filter_ne _ hother]
  · unfold VlanDb.list
    rw [hrecords, List.filter_map]
    rfl
  · rw [hport, PortTable.port?_mapPorts]

/-- A frame of a VLAN that is not there teaches nothing and is dropped, unless the trap takes it. -/
theorem receive_of_missing {h : Handle} {f g : Frame} {p : Port} {cl : Classification}
    (hc : b.classified? h f = some (p, cl, g)) (hv : ¬ b.vlans.Has cl.vid) :
    (b.receive h f).1.fdb = b.fdb ∧
      (b.receive h f).2 = if b.isTrapped p.index cl.vid g then
          { verdict := .trapped, trapped := some (p.index, cl.vid, g) }
        else { verdict := .dropped .vlanNotAllowed } := by
  obtain ⟨-, hclassify⟩ := classified?_eq_some hc
  have hrecord : cl.record = none := by
    rw [(VlanDb.classify_eq_ok hclassify).2]
    exact Option.not_isSome_iff_eq_none.1 hv
  obtain ⟨dst, src, hdst, hsrc⟩ := exists_addresses (classified?_eq_some_iff.1 hc).2.2.1
  have hassess : b.enter.1.assess h f = b.enter.1.judge p cl g dst := by
    have hlearn : b.enter.1.learnSource p cl src = b.enter.1 := by
      unfold learnSource
      rw [hrecord]
    rw [assess_of_classified (b := b.enter.1) hc hdst hsrc, hlearn]
  unfold judge at hassess
  simp only [hrecord] at hassess
  have htrap : b.enter.1.isTrapped p.index cl.vid g = b.isTrapped p.index cl.vid g := rfl
  rw [htrap] at hassess
  split at hassess
  · rw [receive_of_trapped hassess, if_pos ‹_›]
    exact ⟨rfl, rfl⟩
  · rw [receive_of_dropped hassess, if_neg ‹_›]
    exact ⟨rfl, rfl⟩

/-- Nothing refers to a VLAN that is not there. -/
theorem Integrity.of_missing (hi : b.Integrity) (hv : ¬ b.vlans.Has vid) :
    (∀ i p, b.ports.port? i = some p → p.pvid ≠ vid) ∧ ∀ e ∈ b.fdb.entries, e.key.vid ≠ vid :=
  ⟨fun i p hp he => hv (he ▸ hi.portVlans i p hp), fun e he hvid => hv (hvid ▸ hi.entryVlans e he)⟩

end Bridge

namespace Transit

variable {s : Transit} {vid : Vid}

/-- A VLAN other than 0 can be deleted, and then it is gone with all that refers to it, and nothing else is.
Until it is made again no port sends into it by default, no entry is of it, and a frame that is classified
to it teaches nothing and is dropped as not allowed, unless the trap takes it. -/
theorem vlan_deleted (hs : s.Reachable) (hzero : vid ≠ Vid.zero) (hv : s.bridge.vlans.Has vid) :
    (s.bridge.vlanDel vid).2 = .ok () ∧
    s.bridge.WithoutVlan vid (s.bridge.vlanDel vid).1 ∧
    ∀ steps, (∀ step ∈ steps, ¬ step.AddsVlan vid) →
      let later := ((s.next (.event (.perform (.vlanDel vid) trivial))).run steps).bridge
      (∀ i p, later.ports.port? i = some p → p.pvid ≠ vid) ∧
      (∀ e ∈ later.fdb.entries, e.key.vid ≠ vid) ∧
      ∀ h f p c g, later.classified? h f = some (p, c, g) → c.vid = vid →
        (later.receive h f).1.fdb = later.fdb ∧
        (later.receive h f).2 = if later.isTrapped p.index vid g then
            { verdict := .trapped, trapped := some (p.index, vid, g) }
          else { verdict := .dropped .vlanNotAllowed } := by
  obtain ⟨hok, hwithout⟩ := Bridge.vlanDel_without hzero hv
  refine ⟨hok, hwithout, ?_⟩
  intro steps hsteps later
  have hreachable := (hs.next (.event (.perform (.vlanDel vid) trivial))).run steps
  have hmissing : ¬ later.vlans.Has vid := by
    refine not_has_run ?_ hsteps
    have hgone : (s.next (.event (.perform (.vlanDel vid) trivial))).bridge.vlans.vlan? vid = none :=
      hwithout.vlan
    rw [← VlanDb.exists_vlan?_iff, hgone]
    exact nofun
  obtain ⟨hports, hentries⟩ := hreachable.integrity.of_missing hmissing
  refine ⟨hports, hentries, ?_⟩
  rintro h f p c g hc rfl
  exact Bridge.receive_of_missing hc hmissing

/-- A port's own VLAN is deleted while a frame is in flight, with a static entry and one that was learned. The
VLAN cannot be chosen for the port again, and a frame with its tag is dropped. -/
theorem vlan_deleted_seven :
    let seven : Vid := ⟨7, by decide⟩
    let eight : Vid := ⟨8, by decide⟩
    let hello := Frame.ethernet Mac.broadcast ⟨2, 0, 0, 0, 0, 9⟩ EtherType.ipv4 []
    let s := ({ bridge := .beside ["eth0"] } : Transit).run [.event (.request (.portAdd "eth0" {})),
      .event (.request (.vlanAdd seven)), .event (.request (.portSetPvid "eth0" seven)),
      .event (.request (.vlanAttach seven "eth0" false)),
      .event (.request (.fdbAdd (Key.mac seven ⟨2, 0, 0, 0, 0, 8⟩) ["eth0"] .user)), .pin,
      .event (.receive ⟨1, 1⟩ hello)]
    let steps : List Step := [.event (.request (.portSetPvid "eth0" seven)),
      .event (.request (.vlanAdd eight)), .drop ⟨0, ⟨0⟩⟩]
    let later := ((s.next (.event (.perform (.vlanDel seven) trivial))).run steps).bridge
    let tagged := hello.withTag (some (Tag.plain EtherType.dot1q seven))
    s.Reachable ∧ s.held ≠ [] ∧ s.bridge.vlans.Has seven ∧
      s.bridge.fdb.entries.map (·.origin) = [.user, .dynamic] ∧
      (∀ step ∈ steps, ¬ step.AddsVlan seven) ∧
      (s.bridge.vlanDel seven).1.fdb.entries = [] ∧
      (s.bridge.vlanDel seven).1.counters.flushed = 2 ∧
      ((s.bridge.vlanDel seven).1.ports.port? 1).map (·.pvid) = some Vid.zero ∧
      (later.receive ⟨1, 1⟩ tagged).1.fdb = later.fdb ∧
      (later.receive ⟨1, 1⟩ tagged).2.verdict = .dropped .vlanNotAllowed := by
  intro seven eight hello s steps later tagged
  have hs : s.Reachable := (Reachable.create (Bridge.create_beside _)).run _
  have hsteps : ∀ step ∈ steps, ¬ step.AddsVlan seven := by
    simp [steps, Step.AddsVlan, Event.AddsVlan, Request.AddsVlan, seven, eight]
  have hv : s.bridge.vlans.Has seven := by
    unfold VlanDb.Has
    decide +kernel
  have hheld : s.held ≠ [] := by decide +kernel
  have horigins : s.bridge.fdb.entries.map (·.origin) = [.user, .dynamic] := by decide +kernel
  have hentries : s.bridge.fdb.entries.filter (·.key.vid != seven) = [] := by decide +kernel
  have hflushed : s.bridge.counters.flushed +
      UInt64.ofNat (s.bridge.fdb.entries.countP (·.key.vid == seven)) = 2 := by decide +kernel
  have hport : s.bridge.ports.port? 1 = some ⟨1, 1, "eth0", .device 0, seven, {}⟩ := by decide +kernel
  have hclassified : later.classified? ⟨1, 1⟩ tagged =
      some (⟨1, 1, "eth0", .device 0, Vid.zero, {}⟩, ⟨seven, none, false⟩, tagged) := by
    decide +kernel
  have htrap : later.trap = none := by decide +kernel
  -- the proof has no more use for what `s` is, and must not compute it again
  clear_value s
  obtain ⟨-, hwithout, hlater⟩ := vlan_deleted hs (by decide) hv
  obtain ⟨-, -, hframe⟩ := hlater steps hsteps
  obtain ⟨hfdb, hverdict⟩ : (later.receive ⟨1, 1⟩ tagged).1.fdb = later.fdb ∧
      (later.receive ⟨1, 1⟩ tagged).2 = if later.isTrapped 1 seven tagged then
          { verdict := .trapped, trapped := some (1, seven, tagged) }
        else { verdict := .dropped .vlanNotAllowed } := hframe _ _ _ _ _ hclassified rfl
  refine ⟨hs, hheld, hv, horigins, hsteps, ?_, ?_, ?_, hfdb, ?_⟩
  · rw [hwithout.fdb]
    exact hentries
  · rw [hwithout.counters]
    exact hflushed
  · rw [hwithout.ports, hport]
    rfl
  · rw [hverdict, Bridge.isTrapped, htrap]
    rfl

end Transit

end VlanBridge
