import Mathlib.Logic.Relation
import VlanBridge.Proofs.Entries
import VlanBridge.Proofs.Events
import VlanBridge.Proofs.Slots
import VlanBridge.Proofs.VlanRecords
/-!
# What events are made of

An event may do many things to a bridge, but all of them are made of a few transitions, each of which
changes the tables in one way. `next_path` takes every event apart into them. So what is to be shown of
all states of a bridge has to be shown of a new bridge and of the transitions (`Reachable.induction`).
-/

namespace VlanBridge.Bridge

open VlanBridge.Net

/-- Nothing changes but what stands beside the tables: the counters, the clock, the network. -/
structure Aside (b c : Bridge) : Prop where
  config : c.config = b.config
  ports : c.ports = b.ports
  vlans : c.vlans = b.vlans
  fdb : c.fdb = b.fdb
  reclaimer : c.reclaimer = b.reclaimer

/-- Queues a release. -/
def queue (b : Bridge) (r : Release) : Bridge := { b with reclaimer := b.reclaimer.retire r }

/-- One change of the tables of a bridge. -/
inductive Transition : Bridge → Bridge → Prop where
  | aside {b c : Bridge} (h : Aside b c) : Transition b c
  | reclaimed (b : Bridge) : Transition b b.reclaim.1
  | portAdded {b : Bridge} {i : PortIndex} {name : String} (endpoint : Endpoint)
      (ingress : IngressDefaults) (hi : b.ports.busy.firstFree? = some i)
      (hname : b.ports.findByName name = none ∧ name ≠ b.config.name) :
      Transition b (({ b with ports := (b.ports.install i name endpoint ingress).1 } :
        Bridge).joinDefaultVlan i)
  /-- A device refuses to become a port. -/
  | portRefused {b : Bridge} {i : PortIndex} (name : String) (endpoint : Endpoint)
      (ingress : IngressDefaults) (hi : b.ports.busy.firstFree? = some i) :
      Transition b (({ b with ports := (b.ports.install i name endpoint ingress).1.clear i } :
        Bridge).queue (.slot i))
  /-- The forwarding entries have been flushed of the port already, as far as they have to be. -/
  | portDeleted {b : Bridge} {i : PortIndex} {p : Port} (hlocal : i ≠ localPort)
      (hp : b.ports.port? i = some p) (hfree : ∀ e ∈ b.fdb.entries, p.index ∈ e.ports →
        e.origin = .dynamic ∧ b.config.flushOnPortDel = false) :
      Transition b (({ b with
        ports := b.ports.clear i
        vlans := (b.vlans.detachAll p.index).1 } : Bridge).queue (.slot p.index))
  | portSet {b : Bridge} {i : PortIndex} {p : Port} (f : Port → Port)
      (hp : b.ports.port? i = some p) (hfixed : ∀ q, (f q).fixed = q.fixed)
      (hpvid : ∀ q, (f q).pvid = q.pvid ∨ b.vlans.Has (f q).pvid) :
      Transition b { b with ports := b.ports.modify p.index f }
  | vlanCreated {b : Bridge} {vid : Vid} {vlans : VlanDb}
      (h : b.vlans.create vid b.config.defaultLearning = .ok vlans) :
      Transition b { b with vlans }
  /-- The entries of the VLAN have been flushed already. -/
  | vlanDeleted {b : Bridge} {vid : Vid} {vlans : VlanDb} {gone : VlanRecord}
      (h : b.vlans.delete vid = .ok (vlans, gone)) (hfree : ∀ e ∈ b.fdb.entries, e.key.vid ≠ vid) :
      Transition b (({ b with
        ports := b.ports.mapPorts fun p => if p.pvid = vid then { p with pvid := Vid.zero } else p
        vlans } : Bridge).queue (.vlan gone.serial))
  | vlanEdited {b : Bridge} {vid : Vid} {o : Option PortIndex} {f : Vlan → Vlan}
      (hf : Vlan.Edit o f) (ho : ∀ j, o = some j → ∃ i p, b.ports.port? i = some p ∧ p.index = j)
      (hv : b.vlans.Has vid) : Transition b { b with vlans := b.vlans.modify vid f }
  | learned {b : Bridge} {i : PortIndex} {p : Port} {vid : Vid} (src : Mac) (now : Int)
      (hp : b.ports.port? i = some p) (hv : b.vlans.Has vid) :
      Transition b { b with fdb := (b.fdb.learn src vid p.index now).1 }
  | flushed (b : Bridge) (f : FlushFilter) (port : Option PortIndex) (now : Int) :
      Transition b (b.withLearning (b.toLearning.flushPort f port now).1)
  | entryAdded {b : Bridge} {key : Key} {ports : PortSet} {origin : Origin} {s : Learning}
      {gone : List Entry} (hv : b.vlans.Has key.vid) (hports : ∀ i ∈ ports, b.ports.Holds i)
      (h : b.toLearning.addStatic key ports origin = .ok (s, gone)) :
      Transition b (b.withLearning s)
  | entryRemoved {b : Bridge} {key : Key} {s : Learning} {gone : List Entry}
      (h : b.toLearning.remove key = .ok (s, gone)) : Transition b (b.withLearning s)

/-- Some transitions lead from one state to another. -/
abbrev Path : Bridge → Bridge → Prop := Relation.ReflTransGen Transition

theorem Transition.path {b c : Bridge} (h : Transition b c) : Path b c := .single h

theorem Aside.path {b c : Bridge} (h : Aside b c) : Path b c := (Transition.aside h).path

theorem Aside.refl (b : Bridge) : Aside b b := ⟨rfl, rfl, rfl, rfl, rfl⟩

theorem aside_tally (b : Bridge) (c : Counter) (n : Nat) :
    Aside b (b.withLearning (b.toLearning.tally c n)) := ⟨rfl, rfl, rfl, rfl, rfl⟩

theorem path_reclaim (b : Bridge) : Path b b.reclaim.1 := (Transition.reclaimed b).path

/-! ### Ports -/

theorem portAdd_path (b : Bridge) (id : DeviceId) (ingress : IngressDefaults) :
    Path b (b.portAdd id ingress).1 := by
  unfold portAdd
  split
  · exact .refl
  · rename_i d hd
    split
    · exact .refl
    · rename_i ports p hadd
      obtain ⟨i, hi, he⟩ := PortTable.add_eq_ok hadd
      obtain ⟨rfl, rfl⟩ := Prod.mk.inj he
      split
      · exact (Transition.portRefused d.name (.device id) ingress hi).path.trans (path_reclaim _)
      · rename_i enslaved _
        have hnet : Aside b { b with network := b.network.modifyDevice id fun _ => enslaved } :=
          ⟨rfl, rfl, rfl, rfl, rfl⟩
        exact hnet.path.tail (Transition.portAdded (b := { b with
          network := b.network.modifyDevice id fun _ => enslaved }) (.device id) ingress hi
          (PortTable.new_name_of_add hadd))

theorem aside_releaseDevice (b : Bridge) (p : Port) (r : Release) :
    Aside (b.queue r) ((b.releaseDevice p).queue r) := by
  unfold releaseDevice
  split
  · exact ⟨rfl, rfl, rfl, rfl, rfl⟩
  · exact Aside.refl _

theorem flushDeletedPort_path (b : Bridge) (i : PortIndex) : Path b (b.flushDeletedPort i) := by
  unfold flushDeletedPort
  split
  · exact (Transition.flushed b (FlushFilter.onPort i.val) (some i) b.clock).path.trans
      (aside_tally _ .flushed _).path
  · have hexternal := (Transition.flushed b { origin := some .external } (some i) b.clock).path
    have huser := hexternal.tail (.flushed _ { origin := some .user } (some i) b.clock)
    exact huser.trans (aside_tally _ .flushed _).path

/-- What is left of a static entry is not covered by a flush of its origin. -/
theorem mem_flushDeletedPort {b : Bridge} {i : PortIndex} {e : Entry}
    (he : e ∈ (b.flushDeletedPort i).fdb.entries) (hi : i ∈ e.ports) :
    e.origin = .dynamic ∧ b.config.flushOnPortDel = false := by
  unfold flushDeletedPort at he
  split at he
  · obtain ⟨d, -, hd⟩ := Fdb.mem_flushPort.1 he
    exact absurd hi (Fdb.not_mem_of_flushed? hd rfl)
  · rename_i hkeep
    refine ⟨?_, by simpa using hkeep⟩
    obtain ⟨d, hd, hed⟩ := Fdb.mem_flushPort.1 he
    obtain ⟨a, -, hda⟩ := Fdb.mem_flushPort.1 hd
    have hshrunk := Fdb.shrunk_of_flushed? hed
    have hshrunk' := Fdb.shrunk_of_flushed? hda
    cases ho : e.origin with
    | dynamic => rfl
    | external =>
      have ho : a.origin = .external := by rw [← hshrunk'.origin, ← hshrunk.origin, ho]
      refine absurd (hshrunk.ports i hi) (Fdb.not_mem_of_flushed? hda ?_)
      simp [Entry.covered, ho]
    | user =>
      have ho : d.origin = .user := by rw [← hshrunk.origin, ho]
      refine absurd hi (Fdb.not_mem_of_flushed? hed ?_)
      simp [Entry.covered, ho]

theorem flushDeletedPort_with (b : Bridge) (ports : PortTable) (vlans : VlanDb) (i : PortIndex) :
    ({ b with ports, vlans } : Bridge).flushDeletedPort i =
      { b.flushDeletedPort i with ports, vlans } := by
  unfold flushDeletedPort
  cases b.config.flushOnPortDel <;> rfl

theorem flushDeletedPort_ports (b : Bridge) (i : PortIndex) :
    (b.flushDeletedPort i).ports = b.ports ∧ (b.flushDeletedPort i).vlans = b.vlans ∧
      (b.flushDeletedPort i).config = b.config := by
  unfold flushDeletedPort
  split
  · exact ⟨rfl, rfl, rfl⟩
  · exact ⟨rfl, rfl, rfl⟩

theorem portDel_path (b : Bridge) (n : Nat) : Path b (b.portDel n).1 := by
  unfold portDel
  split
  · exact .refl
  · rename_i ports p hremove
    obtain ⟨i, -, hlocal, hp, rfl⟩ := PortTable.remove_eq_ok hremove
    obtain ⟨hports, hvlans, hconfig⟩ := flushDeletedPort_ports b p.index
    have hdel := Transition.portDeleted (b := b.flushDeletedPort p.index) (i := i) (p := p) hlocal
      (by rw [hports]; exact hp) fun e he hi => by rw [hconfig]; exact mem_flushDeletedPort he hi
    rw [hports, hvlans, ← flushDeletedPort_with b] at hdel
    exact (((flushDeletedPort_path b p.index).tail hdel).trans
      (aside_releaseDevice _ p _).path).trans (path_reclaim _)

theorem portSetPvid_path (b : Bridge) (n : Nat) (vid : Vid) : Path b (b.portSetPvid n vid).1 := by
  unfold portSetPvid
  split
  · exact .refl
  · exact .refl
  · rename_i p _ hp hv
    obtain ⟨i, -, hp⟩ := PortTable.require_eq_ok hp
    have hhas := VlanDb.require_eq_ok hv
    exact (Transition.portSet ({ · with pvid := vid }) hp (fun _ => rfl) fun _ => Or.inr hhas).path

theorem portSetIngress_path (b : Bridge) (n : Nat) (ingress : IngressDefaults) :
    Path b (b.portSetIngress n ingress).1 := by
  unfold portSetIngress
  split
  · exact .refl
  · rename_i p hp
    obtain ⟨i, -, hp⟩ := PortTable.require_eq_ok hp
    exact (Transition.portSet ({ · with ingress := ingress }) hp (fun _ => rfl)
      fun _ => Or.inl rfl).path

/-! ### VLANs -/

theorem vlanAdd_path (b : Bridge) (vid : Vid) : Path b (b.vlanAdd vid).1 := by
  unfold vlanAdd withVlans
  split
  · rename_i vlans hcreate
    exact (Transition.vlanCreated hcreate).path
  · exact .refl

theorem vlanDel_path (b : Bridge) (vid : Vid) : Path b (b.vlanDel vid).1 := by
  unfold vlanDel
  split
  · exact .refl
  · rename_i vlans gone hdelete
    have hflush := (Transition.flushed b { vid := some vid } none b.clock).path
    have htally := hflush.trans (aside_tally _ .flushed
      (b.toLearning.flushPort { vid := some vid } none b.clock).2.length).path
    refine (htally.tail (.vlanDeleted hdelete ?_)).trans (path_reclaim _)
    intro e he hv
    obtain ⟨d, -, hd⟩ := Fdb.mem_flushPort.1 he
    have hkey := (Fdb.shrunk_of_flushed? hd).key
    rw [Fdb.flushed?_none_of_covered] at hd
    · cases hd
    · simp [Entry.covered, ← hkey, hv]

/-- A change of one VLAN, if it exists, for a port that is installed. -/
theorem withVlans_path (b : Bridge) (vid : Vid) {o : Option PortIndex} {f : Vlan → Vlan}
    (hf : Vlan.Edit o f) (ho : ∀ j, o = some j → ∃ i p, b.ports.port? i = some p ∧ p.index = j) :
    Path b (b.withVlans (b.vlans.modifyExisting vid f)).1 := by
  unfold withVlans
  split
  · rename_i vlans hmodify
    obtain ⟨hv, rfl⟩ := VlanDb.modifyExisting_eq_ok hmodify
    exact (Transition.vlanEdited hf ho hv).path
  · exact .refl

theorem withPort_path (b : Bridge) (vid : Vid) (n : Nat) {f : PortIndex → Vlan → Vlan}
    (hf : ∀ i, Vlan.Edit (some i) (f i)) :
    Path b (b.withPort n fun i => b.vlans.modifyExisting vid (f i)).1 := by
  unfold withPort
  split
  · exact .refl
  · rename_i p hp
    obtain ⟨i, -, hp⟩ := PortTable.require_eq_ok hp
    refine withVlans_path b vid (hf p.index) ?_
    intro j hj
    exact ⟨i, p, hp, Option.some.inj hj⟩

theorem vlanDetach_path (b : Bridge) (vid : Vid) (n : Nat) : Path b (b.vlanDetach vid n).1 := by
  unfold vlanDetach
  split
  · exact .refl
  · rename_i p hp
    obtain ⟨i, -, hp⟩ := PortTable.require_eq_ok hp
    cases hv : b.vlans.require vid with
    | error e =>
      simp only [VlanDb.detach, hv]
      exact .refl
    | ok v =>
      simp only [VlanDb.detach, hv]
      refine (Transition.vlanEdited (.detach p.index) ?_ (VlanDb.require_eq_ok hv)).path
      intro j hj
      exact ⟨i, p, hp, Option.some.inj hj⟩

/-! ### Entries -/

theorem settle_path {b : Bridge} {s : Learning} (h : Path b (b.withLearning s)) :
    Path b (b.settle s) := h.trans (path_reclaim _)

theorem flush_eq_ok {s u : Learning} {f : FlushFilter} {now : Int} {gone : List Entry}
    (h : s.flush f now = .ok (u, gone)) : u = s ∨ ∃ port, u = (s.flushPort f port now).1 := by
  unfold Learning.flush Fdb.flush at h
  split at h
  · rename_i t gone' hflush
    cases h
    split at hflush
    · cases hflush
      exact Or.inr ⟨none, rfl⟩
    · split at hflush
      · rename_i i _
        cases hflush
        exact Or.inr ⟨some i, rfl⟩
      · split at hflush
        · cases hflush
        · cases hflush
          exact Or.inl (Learning.without_nil _ _)
  · cases h

theorem fdbFlush_path (b : Bridge) (f : FlushFilter) : Path b (b.fdbFlush f).1 := by
  unfold fdbFlush
  split
  · exact .refl
  · rename_i s gone hflush
    refine settle_path ?_
    have hs : Path b (b.withLearning s) := by
      rcases flush_eq_ok hflush with rfl | ⟨port, rfl⟩
      · exact .refl
      · exact (Transition.flushed b f port b.clock).path
    exact hs.trans (aside_tally (b.withLearning s) .flushed gone.length).path

theorem holds_of_missingPort? {b : Bridge} {ports : PortSet} (h : b.missingPort? ports = none) :
    ∀ i ∈ ports, b.ports.Holds i := by
  intro i hi
  have hn := List.find?_eq_none.1 h i (PortSet.mem_toList.2 hi)
  simpa [PortTable.Holds, Option.isSome_iff_ne_none] using hn

theorem fdbAdd_path (b : Bridge) (key : Key) (ports : PortSet) (origin : Origin) :
    Path b (b.fdbAdd key ports origin).1 := by
  unfold fdbAdd
  split
  · exact .refl
  · exact .refl
  · rename_i hv hports
    split
    · exact .refl
    · rename_i s gone hadd
      exact settle_path (Transition.entryAdded (VlanDb.require_eq_ok hv)
        (holds_of_missingPort? hports) hadd).path

theorem fdbDel_path (b : Bridge) (key : Key) : Path b (b.fdbDel key).1 := by
  unfold fdbDel
  split
  · exact .refl
  · rename_i s gone hremove
    exact settle_path (Transition.entryRemoved hremove).path

/-! ### Ageing and shutting down -/

theorem startAgeing_path (b : Bridge) (timer : Option Timer) : Path b (b.startAgeing timer).1 := by
  unfold startAgeing
  split
  · exact .refl
  · split
    · exact .refl
    · exact Aside.path ⟨rfl, rfl, rfl, rfl, rfl⟩

theorem wake_path (b : Bridge) (due : Nat) : Path b (b.wake due) := by
  have hclock : Aside b (b.withLearning { b.toLearning with clock := due }) :=
    ⟨rfl, rfl, rfl, rfl, rfl⟩
  have hflush := (Transition.flushed (b.withLearning { b.toLearning with clock := due })
    FlushFilter.aged none due).path
  have hafter := hflush.tail (.aside (c := b.swept due) ⟨rfl, rfl, rfl, rfl, rfl⟩)
  exact (hclock.path.trans hafter).trans (path_reclaim _)

theorem wakes_path (n : Nat) (b : Bridge) : Path b (wakes n b) := by
  induction n generalizing b with
  | zero => exact .refl
  | succ n ih =>
    unfold wakes
    split
    · rename_i alarm _
      exact (wake_path b alarm.due).trans (ih _)
    · exact .refl

theorem sleep_path (b : Bridge) (ms : Nat) : Path b (b.sleep ms) := by
  -- for every number of wakes, so that none of them is computed when the goal is compared
  have hany : ∀ n finish, Path b { wakes n b with clock := finish } := by
    intro n finish
    have hclock : Aside (wakes n b) { wakes n b with clock := finish } :=
      ⟨rfl, rfl, rfl, rfl, rfl⟩
    exact (wakes_path n b).trans hclock.path
  unfold sleep
  exact hany _ _

theorem foldl_portDel_path (is : List PortIndex) (b : Bridge) :
    Path b (is.foldl (fun b i => (b.portDel i.val).1) b) := by
  induction is generalizing b with
  | nil => exact .refl
  | cons i is ih => exact (portDel_path b i.val).trans (ih _)

theorem shutdown_path (b : Bridge) : Path b b.shutdown := by
  have hstop : Aside b { b with nextSweep := none } := ⟨rfl, rfl, rfl, rfl, rfl⟩
  exact (hstop.path.trans (foldl_portDel_path _ _)).trans (path_reclaim _)

theorem perform_path (b : Bridge) {op : Operation} (hop : op.IsControl) :
    Path b (b.perform op).1 := by
  cases op with
  | portAdd device ingress => exact portAdd_path b device ingress
  | portDel port => exact portDel_path b port
  | portSetPvid port vid => exact portSetPvid_path b port vid
  | portSetIngress port ingress => exact portSetIngress_path b port ingress
  | vlanAdd vid => exact vlanAdd_path b vid
  | vlanDel vid => exact vlanDel_path b vid
  | vlanAttach vid port tagged => exact withPort_path b vid port (.attach · tagged)
  | vlanDetach vid port => exact vlanDetach_path b vid port
  | vlanSetLearning vid enabled =>
    exact withVlans_path b vid (.learning enabled) fun j hj => nomatch hj
  | vlanSetFlood vid c port enabled => exact withPort_path b vid port (.flood c · enabled)
  | vlanSetRouter vid port enabled => exact withPort_path b vid port (.router · enabled)
  | fdbFlush filter => exact fdbFlush_path b filter
  | fdbAdd key ports origin => exact fdbAdd_path b key ports origin
  | fdbDel key => exact fdbDel_path b key
  | learn => exact hop.elim
  | reclaim => exact path_reclaim b
  | quiesce => exact path_reclaim b
  | startAgeing timer => exact startAgeing_path b timer
  | sleep ms => exact sleep_path b ms
  | shutdown => exact shutdown_path b

end VlanBridge.Bridge
