import VlanBridge.Proofs.Accounts
import VlanBridge.Proofs.AgeingTask
import VlanBridge.Proofs.Sightings
/-!
# All that a frame does

A frame that comes in leaves the ports, the VLANs, the masters of the devices and the releases that wait as
they are. It may be heard (`Bridge.Hears`), and then the table is told of its source under one key and stays
as it is under all others; otherwise the table stays as it is. Being heard comes before the trap and before
the VLAN is asked whether the frame may enter. A frame that does not get so far is counted and nothing else
(`receive_effects`).
-/

namespace VlanBridge

open VlanBridge.Net

theorem Net.Mac.isStation_iff {m : Mac} : m.isStation = true ↔ m.isGroup = false ∧ m ≠ Mac.zero := by
  simp only [isStation, isZero, Bool.and_eq_true, Bool.not_eq_true', beq_eq_false_iff_ne]

theorem DropReason.not_isEarly_vlanNotAllowed : ¬ DropReason.IsEarly .vlanNotAllowed := by
  rintro (h | h | h) <;> cases h

/-! ### The table -/

namespace Fdb

variable {t : Fdb}

/-- One table becomes another as the address under a key is heard at a port. -/
structure Learned (t : Fdb) (key : Key) (i : PortIndex) (now : Nat) (u : Fdb) : Prop where
  ageing : u.ageing = t.ageing
  others : ∀ other, other ≠ key → u.find? other = t.find? other
  unknown : t.find? key = none → u.find? key = some ⟨key, .dynamic, PortSet.singleton i, now⟩
  dynamic : ∀ e, t.find? key = some e → e.origin = .dynamic →
    u.find? key = some { e with ports := PortSet.singleton i, lastSeen := max e.lastSeen now }
  static : ∀ e, t.find? key = some e → e.origin ≠ .dynamic → u = t

theorem WellFormed.learned (ht : t.WellFormed) {src : Mac} (hsrc : src.isStation = true) (vid : Vid)
    (i : PortIndex) (now : Int) :
    t.Learned (Key.mac vid src) i (stamp now) (t.learn src vid i now).1 where
  ageing := t.ageing_learn src vid i now
  others _ hother := t.find?_learn_of_ne (Ne.symm hother) i now
  unknown hnone := by
    rw [learn_of_new hsrc hnone, ht.sorted.find?_insert, if_pos rfl]
  dynamic e he hdynamic := by
    obtain ⟨-, j, -, -, -, hports⟩ := (ht.entries e (mem_of_find? he)).dynamic hdynamic
    have hmodify := t.find?_modify (Key.mac vid src) (Key.mac vid src) (seen · i (stamp now))
      fun _ => rfl
    rw [learn_of_dynamic hsrc he hdynamic, hmodify, if_pos rfl, he, ← ports_seen hports i (stamp now)]
    rfl
  static e he hstatic := by
    rw [learn_of_kept hsrc he hstatic]

end Fdb

namespace Bridge

variable {b : Bridge} {h : Handle} {f : Frame} {p : Port} {vid : Vid} {src : Mac}

/-! ### Frames that are heard -/

/-- A frame is heard from its sender at a port, in a VLAN: the port is active, the frame is put into a VLAN
that there is, both learn, and the frame comes from a station. -/
structure Hears (b : Bridge) (h : Handle) (f : Frame) (p : Port) (vid : Vid) (src : Mac) : Prop where
  resolves : b.ports.resolve h = .ok p
  active : p.index ∈ b.ports.active
  header : f.hasHeader = true
  classified : ∃ c g, b.vlans.classify p f b.config.vlanProtocol = .ok (c, g) ∧ c.vid = vid
  vlan : ∃ r, b.vlans.find? vid = some r ∧ r.vlan.learning = true
  learning : p.ingress.learning = true
  source : f.src? = some src
  unicast : src.isGroup = false
  nonzero : src ≠ Mac.zero

theorem Hears.station (hh : b.Hears h f p vid src) :
    src.isStation = true := Mac.isStation_iff.2 ⟨hh.unicast, hh.nonzero⟩

/-- A classified frame is heard if its port and its VLAN learn and it is from a station. -/
theorem hears_iff {c : Classification} {g : Frame} (hc : b.classified? h f = some (p, c, g))
    (hsrc : f.src? = some src) :
    b.Hears h f p c.vid src ↔
      (p.ingress.learning && c.record.any (·.vlan.learning)) = true ∧ src.isStation = true := by
  obtain ⟨hp, hactive, hheader, hclassify⟩ := classified?_eq_some_iff.1 hc
  have hrecord := (VlanDb.classify_eq_ok hclassify).2
  rw [Mac.isStation_iff, Bool.and_eq_true]
  constructor
  · intro hh
    obtain ⟨r, hr, hlearns⟩ := hh.vlan
    rw [hrecord, hr]
    exact ⟨⟨hh.learning, hlearns⟩, hh.unicast, hh.nonzero⟩
  · rintro ⟨⟨hlearning, hvlan⟩, hunicast, hnonzero⟩
    obtain ⟨r, hr, hlearns⟩ := (Option.any_eq_true ..).1 hvlan
    exact ⟨hp, hactive, hheader, ⟨c, g, hclassify, rfl⟩, ⟨r, hrecord.symm.trans hr, hlearns⟩,
      hlearning, hsrc, hunicast, hnonzero⟩

theorem Hears.classified? (hh : b.Hears h f p vid src) :
    ∃ c g, b.classified? h f = some (p, c, g) ∧ c.vid = vid := by
  obtain ⟨c, g, hclassify, hvid⟩ := hh.classified
  exact ⟨c, g, classified?_eq_some_iff.2 ⟨hh.resolves, hh.active, hh.header, hclassify⟩, hvid⟩

/-- The table after a frame that is heard. -/
theorem Hears.fdb_receive (hh : b.Hears h f p vid src) :
    (b.receive h f).1.fdb = (b.fdb.learn src vid p.index b.clock).1 := by
  obtain ⟨c, g, hc, rfl⟩ := hh.classified?
  rcases Bridge.fdb_receive b h f with ⟨hnone, -⟩ | ⟨p', c', g', src', hc', hsrc', hfdb⟩
  · rw [hc] at hnone
    cases hnone
  · rw [hc] at hc'
    cases hc'
    rw [hh.source] at hsrc'
    cases hsrc'
    rw [hfdb, learnSource_of_learning ((hears_iff hc hh.source).1 hh).1]

/-- The table after a frame that is not heard. -/
theorem fdb_receive_of_unheard (hnot : ∀ p vid src, ¬ b.Hears h f p vid src) :
    (b.receive h f).1.fdb = b.fdb := by
  rcases fdb_receive b h f with ⟨-, hfdb⟩ | ⟨p, c, g, src, hc, hsrc, hfdb⟩
  · exact hfdb
  · rw [hfdb]
    by_cases hlearns : (p.ingress.learning && c.record.any (·.vlan.learning)) = true
    · have hstation : ¬ src.isStation = true := fun hstation =>
        hnot p c.vid src ((hears_iff hc hsrc).2 ⟨hlearns, hstation⟩)
      rw [learnSource_of_learning hlearns, Fdb.learn_of_not_station hstation]
    · rw [learnSource_of_not_learning hlearns]

/-! ### The whole effect -/

/-- What a frame leaves as it was. -/
structure Kept (b c : Bridge) : Prop where
  ports : c.ports = b.ports
  vlans : c.vlans = b.vlans
  config : c.config = b.config
  reclaimer : c.reclaimer = b.reclaimer
  clock : c.clock = b.clock
  trap : c.trap = b.trap
  nextSweep : c.nextSweep = b.nextSweep
  registry : c.network.registry = b.network.registry
  masters : ∀ id, (c.network.device? id).map (·.master) = (b.network.device? id).map (·.master)

theorem kept_receive (b : Bridge) (h : Handle) (f : Frame) : b.Kept (b.receive h f).1 := by
  obtain ⟨t, net, cs, he, -, halike⟩ := receive_fst b h f
  rw [he]
  refine ⟨rfl, rfl, rfl, rfl, rfl, rfl, rfl, halike.registry, fun id => ?_⟩
  rcases halike.device? id with ⟨hd, he⟩ | ⟨d, e, hd, he, hsetup⟩
  · rw [hd, he]
  · rw [hd, he]
    exact congrArg (fun setup => some setup.master) hsetup

theorem receive_of_unclassified (hc : b.classified? h f = none) :
    ∃ reason, reason.IsEarly ∧ b.receive h f =
      ({ b with counters := (b.counters.count .rxFrames).countDrop reason },
        { verdict := .dropped reason }) := by
  obtain ⟨reason, hearly, ha⟩ := assess_of_unclassified (b := b.enter.1) hc
  have hback : b.reclaimer.pin.1.unpin b.reclaimer.pin.2 = b.reclaimer := b.reclaimer.unpin_pin
  refine ⟨reason, hearly, ?_⟩
  rw [receive_of_dropped ha]
  simp only [leave, enter, count, hback]

theorem verdict_of_classified {c : Classification} {g : Frame}
    (hc : b.classified? h f = some (p, c, g)) {reason : DropReason} (hearly : reason.IsEarly) :
    (b.receive h f).2.verdict ≠ .dropped reason := by
  have hcourse := course_receive b h f
  generalize b.receive h f = o at hcourse ⊢
  cases hcourse with
  | unclassified _ hnone =>
    rw [hc] at hnone
    cases hnone
  | trapped => exact nofun
  | notAllowed =>
    rintro ⟨⟩
    exact DropReason.not_isEarly_vlanNotAllowed hearly
  | @sent _ _ _ _ _ _ _ _ after =>
    -- the destination has been looked up, which is past every early end
    intro hverdict
    have hresolved := (isResolved_verdictOf after.2).1
    have hverdict : verdictOf after.2 = .dropped reason := hverdict
    rw [hverdict, not_isResolved_of_isEarly hearly] at hresolved
    cases hresolved

/-- A frame that is dropped before its VLAN is known is counted, and that is all. -/
theorem receive_of_early {reason : DropReason} (hearly : reason.IsEarly)
    (hverdict : (b.receive h f).2.verdict = .dropped reason) :
    b.receive h f = ({ b with counters := (b.counters.count .rxFrames).countDrop reason },
      { verdict := .dropped reason }) := by
  cases hc : b.classified? h f with
  | some found => exact absurd hverdict (verdict_of_classified hc hearly)
  | none =>
    obtain ⟨reason', -, hreceive⟩ := receive_of_unclassified hc
    rw [hreceive] at hverdict ⊢
    cases hverdict
    rfl

/-- A frame that the trap takes or that may not enter its VLAN has been classified. -/
theorem classified?_of_stopped (hverdict : (b.receive h f).2.verdict = .trapped ∨
    (b.receive h f).2.verdict = .dropped .vlanNotAllowed) :
    ∃ p c g src, b.classified? h f = some (p, c, g) ∧ f.src? = some src := by
  cases hc : b.classified? h f with
  | some found =>
    obtain ⟨p, c, g⟩ := found
    obtain ⟨-, src, -, hsrc⟩ := exists_addresses (classified?_eq_some_iff.1 hc).2.2.1
    exact ⟨p, c, g, src, rfl, hsrc⟩
  | none =>
    obtain ⟨reason, hearly, hreceive⟩ := receive_of_unclassified hc
    rw [hreceive] at hverdict
    rcases hverdict with hverdict | hverdict
    · cases hverdict
    · cases hverdict
      exact absurd hearly DropReason.not_isEarly_vlanNotAllowed

/-- A frame leaves ports, VLANs, masters and waiting releases as they are. If it is heard, the table learns
its source under one key; if it is not, the table stays. A frame that is trapped or that may not enter its
VLAN is heard as others are, and one that is dropped before its VLAN is known is counted and no more. -/
theorem receive_effects (hb : b.Reachable) (h : Handle) (f : Frame) :
    b.Kept (b.receive h f).1 ∧
      (∀ p vid src, b.Hears h f p vid src → b.fdb.Learned (Key.mac vid src) p.index (stamp b.clock)
        (b.receive h f).1.fdb) ∧
      ((∀ p vid src, ¬ b.Hears h f p vid src) → (b.receive h f).1.fdb = b.fdb) ∧
      ((b.receive h f).2.verdict = .trapped ∨ (b.receive h f).2.verdict = .dropped .vlanNotAllowed →
        ∃ p c g src, b.classified? h f = some (p, c, g) ∧ f.src? = some src ∧
          ∀ r, c.record = some r → p.ingress.learning = true → r.vlan.learning = true →
            src.isGroup = false → src ≠ Mac.zero → b.Hears h f p c.vid src) ∧
      ∀ reason, reason.IsEarly → (b.receive h f).2.verdict = .dropped reason →
        b.receive h f = ({ b with counters := (b.counters.count .rxFrames).countDrop reason },
          { verdict := .dropped reason }) := by
  refine ⟨kept_receive b h f, fun p vid src hh => ?_, fdb_receive_of_unheard, fun hverdict => ?_,
    fun _ => receive_of_early⟩
  · rw [hh.fdb_receive]
    exact hb.wellFormed.learned hh.station vid p.index b.clock
  · obtain ⟨p, c, g, src, hc, hsrc⟩ := classified?_of_stopped hverdict
    refine ⟨p, c, g, src, hc, hsrc, fun r hr hport hvlan hunicast hnonzero => ?_⟩
    rw [hears_iff hc hsrc, hr, hport]
    exact ⟨hvlan, Mac.isStation_iff.2 ⟨hunicast, hnonzero⟩⟩

/-- A frame comes in by a port that is no member of its VLAN, then again with a trap that takes it. Its source
is learned both times, and not from a frame that is too short. -/
theorem receive_effects_stopped :
    let vid : Vid := ⟨10, Nat.le_of_ble_eq_true rfl⟩
    let b := (beside ["eth0", "eth1"]).run [.request (.portAdd "eth0" {}),
      .request (.portAdd "eth1" {}), .request (.vlanAdd vid), .request (.vlanAttach vid "eth1" true)]
    let trapping := b.next (.trap (some ⟨fun _ _ _ => true⟩))
    let station : Mac := ⟨2, 0, 0, 0, 0, 7⟩
    let f := (Frame.ethernet Mac.broadcast station EtherType.ipv4 []).withTag
      (some (Tag.plain EtherType.dot1q vid))
    let entry : Entry := ⟨Key.mac vid station, .dynamic, PortSet.singleton 1, 0⟩
    (b.Reachable ∧ trapping.Reachable) ∧
      ((b.receive ⟨1, 1⟩ f).2.verdict = .dropped .vlanNotAllowed ∧
        (b.receive ⟨1, 1⟩ f).1.fdb.find? entry.key = some entry) ∧
      ((trapping.receive ⟨1, 1⟩ f).2.verdict = .trapped ∧
        (trapping.receive ⟨1, 1⟩ f).1.fdb.find? entry.key = some entry) ∧
      (b.receive ⟨1, 1⟩ { data := f.data.take 13 }).1 =
        { b with counters := { b.counters with rxFrames := 1, dropRunt := 1 } } := by
  intro vid b trapping station f entry
  have hb : b.Reachable := (reachable_beside _).run _
  have htrapping : trapping.Reachable := hb.next _
  let p : Port := ⟨1, 1, "eth0", .device 0, Vid.zero, {}⟩
  let v : Vlan := ({ vid, learning := true } : Vlan).attach 2 true
  let c : Classification := ⟨vid, some ⟨1, v⟩, false⟩
  have hc : b.classified? ⟨1, 1⟩ f = some (p, c, f) := by decide +kernel
  have hheard : b.Hears ⟨1, 1⟩ f p vid station := (hears_iff hc rfl).2 (by decide +kernel)
  have hc' : trapping.classified? ⟨1, 1⟩ f = some (p, c, f) := by decide +kernel
  have htrapped : trapping.Hears ⟨1, 1⟩ f p vid station :=
    (hears_iff hc' rfl).2 (by decide +kernel)
  obtain ⟨-, hlearned, -, -, -⟩ := receive_effects hb ⟨1, 1⟩ f
  have hdropped := (hlearned p vid station hheard).unknown (by decide +kernel)
  obtain ⟨-, hlearned', -, -, -⟩ := receive_effects htrapping ⟨1, 1⟩ f
  have hcaught := (hlearned' p vid station htrapped).unknown (by decide +kernel)
  obtain ⟨-, -, -, -, hshort⟩ := receive_effects hb ⟨1, 1⟩ { data := f.data.take 13 }
  have hrunt := hshort .runt (Or.inr (Or.inl rfl)) (by decide +kernel)
  have hverdict : (b.receive ⟨1, 1⟩ f).2.verdict = .dropped .vlanNotAllowed := by decide +kernel
  have hverdict' : (trapping.receive ⟨1, 1⟩ f).2.verdict = .trapped := by decide +kernel
  have hcounters : (b.counters.count .rxFrames).countDrop .runt =
      { b.counters with rxFrames := 1, dropRunt := 1 } := by decide +kernel
  refine ⟨⟨hb, htrapping⟩, ⟨hverdict, hdropped⟩, ⟨hverdict', hcaught⟩, ?_⟩
  rw [hrunt, hcounters]

end Bridge

end VlanBridge
