import VlanBridge.Proofs.Admissions
import VlanBridge.Proofs.Enslavement
import VlanBridge.Proofs.Isolation
import VlanBridge.Proofs.WellFormedEntries
/-!
# Stations are found where they were last heard

A station that is learned is located at the port it was heard at, whatever the table said before. Frames
of other stations and of other VLANs leave it there. And a frame that is meant for it goes to that port
and to no other.
-/

namespace VlanBridge

open VlanBridge.Net

/-! ### One key of the forwarding table -/

namespace Fdb

variable {t : Fdb}

theorem Sorted.find?_eq_some_iff (ht : t.Sorted) {key : Key} {e : Entry} :
    t.find? key = some e ↔ e ∈ t.entries ∧ e.key = key := by
  constructor
  · intro h
    exact ⟨mem_of_find? h, find?_key h⟩
  · rintro ⟨he, rfl⟩
    exact ht.find?_eq_some he

theorem find?_insert_of_ne (t : Fdb) {e : Entry} {key : Key} (hkey : e.key ≠ key) :
    (t.insert e).find? key = t.find? key := by
  refine Ordered.find?_insert (fun d hd => ?_) t.entries
  rw [← Key.eq_of_rank_eq hd]
  exact beq_false_of_ne hkey

theorem find?_learn_of_ne (t : Fdb) {src : Mac} {vid : Vid} {key : Key}
    (hkey : Key.mac vid src ≠ key) (i : PortIndex) (now : Int) :
    (t.learn src vid i now).1.find? key = t.find? key := by
  unfold Fdb.learn
  split
  · rfl
  · simp only
    split
    · exact t.find?_insert_of_ne hkey
    · split
      · have hmodify := t.find?_modify (Key.mac vid src) key (seen · i (stamp now)) fun _ => rfl
        exact hmodify.trans (if_neg fun he => hkey he.symm)
      · rfl

/-- A station that has no static entry is located at the port it was heard at. -/
theorem WellFormed.find?_learn (ht : t.WellFormed) {src : Mac} (hsrc : src.isStation = true) {vid : Vid}
    (hdynamic : ∀ e, t.find? (Key.mac vid src) = some e → e.origin = .dynamic) (i : PortIndex)
    (now : Int) :
    ∃ e, (t.learn src vid i now).1.find? (Key.mac vid src) = some e ∧
      e.ports = PortSet.singleton i := by
  unfold Fdb.learn
  simp only [hsrc, Bool.not_true, Bool.false_eq_true, if_false]
  cases he : t.find? (Key.mac vid src) with
  | none =>
    refine ⟨_, (ht.sorted.insert _).find?_eq_some (Ordered.mem_insert_self), rfl⟩
  | some e =>
    simp only [hdynamic e he, if_true]
    obtain ⟨-, j, -, -, -, hports⟩ := (ht.entries e (mem_of_find? he)).dynamic (hdynamic e he)
    refine ⟨seen e i (stamp now), ?_, ports_seen hports i (stamp now)⟩
    have hmodify := t.find?_modify (Key.mac vid src) (Key.mac vid src) (seen · i (stamp now))
      fun _ => rfl
    rw [hmodify, if_pos rfl, he]
    rfl

end Fdb

namespace Bridge

variable {b c : Bridge} {v : Vid} {s : Mac} {i : PortIndex}

theorem wellFormed_of_create {config : BridgeConfig} {network : Network}
    (h : Bridge.create config network = .ok b) : b.fdb.WellFormed := by
  rw [create_eq_ok h]
  exact .empty _

theorem Transition.wellFormed (h : Transition b c) (hb : b.fdb.WellFormed) : c.fdb.WellFormed := by
  cases h with
  | aside h =>
    rw [h.fdb]
    exact hb
  | reclaimed =>
    rw [(reclaim_tables b).2.2.1]
    exact hb
  | learned src now hp hv => exact hb.learn _ _ _ _
  | flushed f port now => exact hb.flushPort f port now
  | entryAdded hv hports h =>
    obtain ⟨t, replaced, hadd, rfl⟩ := Learning.addStatic_eq_ok h
    exact hb.addStatic hadd
  | entryRemoved h =>
    obtain ⟨t, e, hremove, rfl⟩ := Learning.remove_eq_ok h
    exact hb.remove hremove
  | portAdded | portRefused | portDeleted | portSet | vlanCreated | vlanDeleted | vlanEdited =>
    exact hb

theorem Reachable.wellFormed (hb : b.Reachable) : b.fdb.WellFormed :=
  Reachable.induction (P := fun b => b.fdb.WellFormed) wellFormed_of_create
    (fun hb h => h.wellFormed hb) hb

/-! ### Learning from frames -/

/-- Whatever becomes of a classified frame, its source is learned as its port and its VLAN say. Any other
frame teaches nothing. -/
theorem fdb_receive (b : Bridge) (h : Handle) (f : Frame) :
    (b.classified? h f = none ∧ (b.receive h f).1.fdb = b.fdb) ∨
      ∃ p c g src, b.classified? h f = some (p, c, g) ∧ f.src? = some src ∧
        (b.receive h f).1.fdb = (b.learnSource p c src).fdb := by
  have hcourse := course_receive b h f
  generalize b.receive h f = o at hcourse ⊢
  cases hcourse with
  | unclassified _ hc => exact Or.inl ⟨hc, rfl⟩
  | trapped hc hsrc => exact Or.inr ⟨_, _, _, _, hc, hsrc, fdb_learnSource_enter ..⟩
  | notAllowed hc hsrc => exact Or.inr ⟨_, _, _, _, hc, hsrc, fdb_learnSource_enter ..⟩
  | @sent p c g dst src r l flight after hc _ hsrc _ hl _ hafter =>
    obtain ⟨cs, he⟩ := sendAll_fst flight flight.targets (l.count (l.resolve r.vlan c.vid g dst).2)
    have hfdb : after.1.fdb = l.fdb := by
      rw [hafter, he]
      rfl
    have hlearned : l.fdb = (b.learnSource p c src).fdb := by
      rw [hl, fdb_learnSource_enter]
    exact Or.inr ⟨_, _, _, _, hc, hsrc, hfdb.trans hlearned⟩

/-- The table sends what is for a station of a VLAN to one port. -/
def Locates (b : Bridge) (v : Vid) (s : Mac) (i : PortIndex) : Prop :=
  ∃ e, b.fdb.find? (Key.mac v s) = some e ∧ e.ports = PortSet.singleton i

/-- A station is located at the port that its frame comes in by. -/
theorem locates_receive (hb : b.Reachable) {h : Handle} {f g : Frame} {p : Port} {c : Classification}
    {r : VlanRecord} (hc : b.classified? h f = some (p, c, g)) (hr : c.record = some r)
    (hport : p.ingress.learning = true) (hvlan : r.vlan.learning = true) (hsrc : f.src? = some s)
    (hs : s.isStation = true)
    (hdynamic : ∀ e, b.fdb.find? (Key.mac c.vid s) = some e → e.origin = .dynamic) :
    (b.receive h f).1.Locates c.vid s p.index := by
  have hlearn : (b.learnSource p c s).fdb = (b.fdb.learn s c.vid p.index b.clock).1 := by
    unfold learnSource
    simp only [hr, hport, hvlan, Bool.and_self, if_true]
    rfl
  unfold Locates
  rcases fdb_receive b h f with ⟨hnone, -⟩ | ⟨p', c', g', src, hc', hsrc', hfdb⟩
  · rw [hc] at hnone
    cases hnone
  · rw [hc] at hc'
    rw [hsrc] at hsrc'
    cases hc'
    cases hsrc'
    rw [hfdb, hlearn]
    exact hb.wellFormed.find?_learn hs hdynamic p.index b.clock

end Bridge

/-! ### Traffic -/

def Event.IsTraffic : Event → Prop
  | .receive .. | .clock _ => True
  | _ => False

/-- A frame comes in from a station, in a VLAN. -/
def Moment.IsFrom (m : Moment) (s : Mac) (v : Vid) : Prop :=
  match m.event with
  | .receive h f => f.src? = some s ∧ m.before.effectiveVid? h f = some v
  | _ => False

namespace Bridge

variable {b c d : Bridge} {v : Vid} {s : Mac} {i : PortIndex}

theorem Locates.learnSource (h : b.Locates v s i) (p : Port) {c : Classification} {src : Mac}
    (hother : ¬ (src = s ∧ c.vid = v)) :
    (b.learnSource p c src).Locates v s i := by
  obtain ⟨e, he, hports⟩ := h
  have hkey : Key.mac c.vid src ≠ Key.mac v s := by
    intro hsame
    obtain ⟨hvid, haddress⟩ := Key.mk.inj hsame
    exact hother ⟨Address.mac.inj haddress, hvid⟩
  refine ⟨e, ?_, hports⟩
  rcases learnSource_eq b p c src with hsame | ⟨-, hlearn⟩
  · rw [hsame]
    exact he
  · rw [hlearn]
    exact (Fdb.find?_learn_of_ne _ hkey p.index b.clock).trans he

/-- A frame of another station, or in another VLAN, leaves the station where it is. -/
theorem Locates.receive (h : b.Locates v s i) {handle : Handle} {f : Frame}
    (hother : ¬ (f.src? = some s ∧ b.effectiveVid? handle f = some v)) :
    (b.receive handle f).1.Locates v s i := by
  unfold Locates
  rcases fdb_receive b handle f with ⟨-, hfdb⟩ | ⟨p, c, g, src, hc, hsrc, hfdb⟩
  · rw [hfdb]
    exact h
  · rw [hfdb]
    refine h.learnSource p ?_
    rintro ⟨rfl, rfl⟩
    exact hother ⟨hsrc, by rw [effectiveVid?, hc]; rfl⟩

/-- What traffic leaves as it is. -/
structure SetUp (b c : Bridge) : Prop where
  ports : c.ports = b.ports
  vlans : c.vlans = b.vlans
  network : b.network.Alike c.network

theorem SetUp.refl (b : Bridge) : b.SetUp b := ⟨rfl, rfl, .refl _⟩

theorem SetUp.trans (h : b.SetUp c) (k : c.SetUp d) : b.SetUp d :=
  ⟨k.ports.trans h.ports, k.vlans.trans h.vlans, h.network.trans k.network⟩

theorem setUp_receive (b : Bridge) (h : Handle) (f : Frame) : b.SetUp (b.receive h f).1 := by
  obtain ⟨t, net, cs, he, -, hnet⟩ := receive_fst b h f
  rw [he]
  exact ⟨rfl, rfl, hnet⟩

theorem setUp_next {e : Event} (he : e.IsTraffic) : b.SetUp (b.next e) := by
  cases e with
  | receive h f => exact setUp_receive b h f
  | clock now => exact ⟨rfl, rfl, .refl _⟩
  | perform | request | wake | trap | network => exact he.elim

theorem setUp_run {events : List Event} (htraffic : ∀ e ∈ events, e.IsTraffic) :
    b.SetUp (b.run events) := by
  induction events generalizing b with
  | nil => exact .refl b
  | cons e es ih =>
    have hrest := ih (b := b.next e) fun e' he' => htraffic e' (List.mem_cons_of_mem _ he')
    exact (setUp_next (htraffic e (List.mem_cons_self ..))).trans hrest

theorem Locates.next (h : b.Locates v s i) {e : Event} (he : e.IsTraffic)
    (hother : ¬ Moment.IsFrom ⟨b, e⟩ s v) : (b.next e).Locates v s i := by
  cases e with
  | receive handle f => exact h.receive hother
  | clock now => exact h
  | perform | request | wake | trap | network => exact he.elim

theorem Locates.run (h : b.Locates v s i) {events : List Event}
    (htraffic : ∀ e ∈ events, e.IsTraffic) (hother : ∀ m ∈ b.history events, ¬ m.IsFrom s v) :
    (b.run events).Locates v s i := by
  induction events generalizing b with
  | nil => exact h
  | cons e es ih =>
    have hnext := h.next (htraffic e (List.mem_cons_self ..)) (hother _ (List.mem_cons_self ..))
    exact ih hnext (fun e' he' => htraffic e' (List.mem_cons_of_mem _ he'))
      fun m hm => hother m (List.mem_cons_of_mem _ hm)

/-! ### Reaching a station -/

theorem resolve_of_locates (h : b.Locates v s i) (hs : s.isStation = true) (w : Vlan) (g : Frame) :
    (b.resolve w v g s).1 = PortSet.singleton i := by
  obtain ⟨e, he, hports⟩ := h
  have hgroup : s.isGroup = false := by
    unfold Mac.isStation at hs
    simpa using (Bool.and_eq_true_iff.1 hs).1
  have hbroadcast : s.isBroadcast = false := by
    cases hb : s.isBroadcast with
    | false => rfl
    | true =>
      rw [eq_of_beq hb] at hgroup
      cases hgroup
  have hkey : destination g v s = (some (Key.mac v s), .unicast) := by
    simp only [destination, hgroup, hbroadcast, Bool.false_eq_true, if_false]
  unfold resolve
  simp only [hkey, Fdb.lookup, he, Option.map_some]
  exact hports

theorem toList_of_mem_iff {is : PortSet} (h : ∀ j, j ∈ is ↔ j = i) : is.toList = [i] := by
  have hmem : ∀ j, j ∈ is.toList ↔ j = i := fun j => PortSet.mem_toList.trans (h j)
  have hascending := PortSet.toList_ascending is
  generalize is.toList = js at hmem hascending
  match js with
  | [] => exact absurd ((hmem i).2 rfl) List.not_mem_nil
  | [j] => rw [(hmem j).1 (List.mem_singleton.2 rfl)]
  | j :: k :: rest =>
    -- both would be the same slot, and the second is higher
    have hj := (hmem j).1 (List.mem_cons_self ..)
    have hk := (hmem k).1 (List.mem_cons_of_mem _ (List.mem_cons_self ..))
    have hlt := (List.pairwise_cons.1 hascending).1 k (List.mem_cons_self ..)
    rw [hj, hk] at hlt
    exact absurd hlt (Nat.lt_irrefl _)

/-- A frame that is meant for a located station goes to its port alone. -/
theorem sent_of_locates (hb : b.Sound) {h : Handle} {f g : Frame} {p q : Port} {c : Classification}
    {r : VlanRecord} (hc : b.classified? h f = some (p, c, g)) (hr : c.record = some r)
    (hallowed : c.allowed = true) (htrap : b.isTrapped p.index c.vid g = false)
    (hdst : f.dst? = some s) (hs : s.isStation = true) (hsrc : f.src? ≠ some s)
    (hlocated : b.Locates c.vid s i) (hq : b.ports.port? i = some q) (hmember : i ∈ r.vlan.members)
    (hi : i ≠ p.index) :
    ∃ e, (b.receive h f).2 = { verdict := verdictOf [e], sent := [e] } ∧
      e.port = i ∧ e.frame.data = g.data ∧ e.accepted = b.network.takes q.endpoint := by
  obtain ⟨hp, hactive, hheader, hclassify⟩ := classified?_eq_some_iff.1 hc
  obtain ⟨_, src, -, hfrom⟩ := exists_addresses hheader
  have hother : ¬ (src = s ∧ c.vid = c.vid) := by
    rintro ⟨rfl, -⟩
    exact hsrc hfrom
  have hroute : b.enter.1.assess h f = (b.enter.1.learnSource p c src).route p r c.vid g s :=
    assess_eq_route hp hactive hheader hdst hfrom hclassify hr hallowed htrap
  have hlearned : (b.enter.1.learnSource p c src).Locates c.vid s i :=
    Locates.learnSource (b := b.enter.1) hlocated p hother
  obtain ⟨cs, hl⟩ := learnSource_fst b.enter.1 p c src
  generalize b.enter.1.learnSource p c src = l at hroute hlearned hl
  have hports : l.ports = b.ports := by rw [hl]; rfl
  have hnetwork : l.network = b.network := by rw [hl]; rfl
  have hindex : q.index = i := hb.ports.index i q hq
  have htargets : (l.reachable p r.vlan (l.resolve r.vlan c.vid g s).1).toList = [i] := by
    refine toList_of_mem_iff fun j => ?_
    rw [mem_reachable, resolve_of_locates hlearned hs, PortSet.mem_singleton, hports]
    constructor
    · rintro ⟨-, -, -, hj⟩
      exact hj
    · rintro rfl
      exact ⟨(hb.ports.active j).2 (PortTable.holds_iff.2 ⟨q, hq⟩), hi, hmember, rfl⟩
  obtain ⟨-, hreception⟩ := receive_of_route hroute
  have hone : [i].filterMap l.ports.port? = [q] := by
    rw [hports, List.filterMap_cons_some hq]
    rfl
  rw [htargets, hone, sendAll_snd] at hreception
  refine ⟨_, hreception, hindex, rfl, ?_⟩
  rw [← hnetwork]
  rfl

/-- A station that was last heard at a port is reached there, and only there, after any traffic that is
not its own. The port takes the frame unless its device refuses frames of its own accord. -/
theorem station_reached (hb : b.Undisturbed) {h : Handle} {f g : Frame} {p : Port}
    {c : Classification} {r : VlanRecord} (hc : b.classified? h f = some (p, c, g))
    (hr : c.record = some r) (hmember : p.index ∈ r.vlan.members)
    (hport : p.ingress.learning = true) (hvlan : r.vlan.learning = true) (hsrc : f.src? = some s)
    (hs : s.isStation = true)
    (hdynamic : ∀ e, b.fdb.find? (Key.mac c.vid s) = some e → e.origin = .dynamic)
    {events : List Event} (htraffic : ∀ e ∈ events, e.IsTraffic)
    (hother : ∀ m ∈ (b.receive h f).1.history events, ¬ m.IsFrom s c.vid)
    {h' : Handle} {f' g' : Frame} {p' : Port} {c' : Classification}
    (hc' : ((b.receive h f).1.run events).classified? h' f' = some (p', c', g'))
    (hvid : c'.vid = c.vid) (hallowed : c'.allowed = true) (hne : p'.index ≠ p.index)
    (hdst : f'.dst? = some s) (hsrc' : f'.src? ≠ some s)
    (htrap : ((b.receive h f).1.run events).isTrapped p'.index c'.vid g' = false) :
    let reception := (((b.receive h f).1.run events).receive h' f').2
    reception.sent.map (·.port) = [p.index] ∧ (∀ e ∈ reception.sent, e.frame.data = g'.data) ∧
      (b.network.Willing p.endpoint → reception.verdict = .delivered 1) := by
  have hsound := hb.reachable.sound
  have hstart : (b.receive h f).1.Undisturbed := hb.next (.receive h f) trivial
  have hafter : ((b.receive h f).1.run events).Undisturbed := by
    refine hstart.run ?_
    rintro e he net rfl
    exact htraffic _ he
  have hsetup := (setUp_receive b h f).trans (setUp_run htraffic)
  have hheard := locates_receive hb.reachable hc hr hport hvlan hsrc hs hdynamic
  have hlocated := hheard.run htraffic hother
  generalize (b.receive h f).1.run events = after at *
  intro reception
  obtain ⟨hp, hclassify⟩ := classified?_eq_some hc
  obtain ⟨i, -, hslot⟩ := PortTable.resolve_eq_ok hp
  have hindex : p.index = i := hsound.ports.index i p hslot
  have hslot' : after.ports.port? p.index = some p := by
    rw [hsetup.ports, hindex]
    exact hslot
  have hr' : c'.record = some r := by
    obtain ⟨-, hclassify'⟩ := classified?_eq_some hc'
    rw [(VlanDb.classify_eq_ok hclassify').2, hsetup.vlans, hvid, ← hr]
    exact (VlanDb.classify_eq_ok hclassify).2.symm
  rw [← hvid] at hlocated
  obtain ⟨e, hreception, hto, hdata, haccepted⟩ := sent_of_locates hafter.reachable.sound hc' hr'
    hallowed htrap hdst hs hsrc' hlocated hslot' hmember hne.symm
  have hreception : reception = { verdict := verdictOf [e], sent := [e] } := hreception
  rw [hreception]
  refine ⟨congrArg (fun i => [i]) hto, ?_, ?_⟩
  · intro e' he'
    rw [List.mem_singleton.1 he']
    exact hdata
  · intro hwilling
    have htakes := hafter.enslaved.takes hslot' (hsetup.network.willing hwilling)
    rw [htakes] at haccepted
    simp only [verdictOf, List.countP_singleton, haccepted, Bool.not_true, Bool.false_eq_true, if_true,
      if_false]
    rfl

/-- A station is heard at the second port and then at the first. A frame for it from the third port goes to
the first, although the third has been heard and time has passed in between. -/
theorem station_reached_moved :
    let station : Mac := ⟨2, 0, 0, 0, 0, 9⟩
    let other : Mac := ⟨2, 0, 0, 0, 0, 8⟩
    let hello := Frame.ethernet Mac.broadcast station EtherType.ipv4 []
    let hail := Frame.ethernet station other EtherType.ipv4 []
    let b := (beside ["eth0", "eth1", "eth2"]).run [.request (.portAdd "eth0" {}),
      .request (.portAdd "eth1" {}), .request (.portAdd "eth2" {}), .receive ⟨2, 1⟩ hello]
    let between : List Event := [.clock 5000000000,
      .receive ⟨3, 1⟩ (Frame.ethernet Mac.broadcast other EtherType.ipv4 [])]
    let reception := (((b.receive ⟨1, 1⟩ hello).1.run between).receive ⟨3, 1⟩ hail).2
    b.Undisturbed ∧ reception.sent.map (·.port) = [1] ∧ reception.verdict = .delivered 1 := by
  intro station other hello hail b between reception
  have hb : b.Undisturbed := by
    refine (Undisturbed.create (create_beside _)).run ?_
    rintro e he net rfl
    simp only [List.mem_cons, reduceCtorEq, List.not_mem_nil, or_self] at he
  let v : Vlan := ((({ vid := Vid.zero, learning := true } : Vlan).attach 0 false).attach 1 false
    |>.attach 2 false).attach 3 false
  let first : Port := ⟨1, 1, "eth0", .device 0, Vid.zero, {}⟩
  let third : Port := ⟨3, 1, "eth2", .device 2, Vid.zero, {}⟩
  let inZero : Classification := ⟨Vid.zero, some ⟨0, v⟩, true⟩
  have hc : b.classified? ⟨1, 1⟩ hello = some (first, inZero, hello) := by decide +kernel
  have hdynamic : ∀ e, b.fdb.find? (Key.mac Vid.zero station) = some e → e.origin = .dynamic := by
    have hall : (b.fdb.find? (Key.mac Vid.zero station)).all (·.origin = .dynamic) = true := by
      decide +kernel
    intro e he
    rw [he] at hall
    exact of_decide_eq_true hall
  have htraffic : ∀ e ∈ between, e.IsTraffic := by
    intro e he
    rcases List.mem_pair.1 he with rfl | rfl
    · exact trivial
    · exact trivial
  have hother : ∀ m ∈ (b.receive ⟨1, 1⟩ hello).1.history between, ¬ m.IsFrom station Vid.zero := by
    intro m hm
    rcases List.mem_pair.1 hm with rfl | rfl
    · exact id
    · rintro ⟨hsrc, -⟩
      exact absurd hsrc (by decide)
  have hc' : ((b.receive ⟨1, 1⟩ hello).1.run between).classified? ⟨3, 1⟩ hail =
      some (third, inZero, hail) := by decide +kernel
  have htrap : ((b.receive ⟨1, 1⟩ hello).1.run between).isTrapped third.index inZero.vid hail =
      false := by decide +kernel
  have hwilling : b.network.Willing first.endpoint := by
    have hall : (b.network.device? 0).all (·.refusesFrames.isNone) = true := by decide +kernel
    rintro id d hid hd
    cases hid
    rw [hd] at hall
    exact Option.isNone_iff_eq_none.1 hall
  have hreached := station_reached hb hc rfl (by decide) rfl rfl rfl (by decide) hdynamic htraffic
    hother hc' rfl rfl (by decide) rfl (by decide) htrap
  exact ⟨hb, hreached.1, hreached.2.2 hwilling⟩

end Bridge

end VlanBridge
