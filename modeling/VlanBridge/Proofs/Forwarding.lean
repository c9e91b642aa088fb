import VlanBridge.Proofs.Bookkeeping
import VlanBridge.Proofs.Networks
/-!
# Where a frame goes

A frame that is classified to a VLAN it may enter, and that the trap leaves alone, goes once to each of
its destinations and nowhere else. `Meant` says for which ports it is meant, `Delivery` what is to be
seen of its way, and `receive_forwards` that this is what happens, in every state that a bridge can
come into: there, every active slot holds a port, and a record is found by its serial number.
-/

namespace VlanBridge

open VlanBridge.Net

deriving instance DecidableEq for Classification

/-- A frame is meant for a port: by the entry of its key if there is one, or else because the port is
flooded with frames of its class. -/
def Vlan.Meant (v : Vlan) (t : Fdb) (target : Option Key × FloodClass) (i : PortIndex) : Prop :=
  match target.1.bind t.find? with
  | some e => i ∈ e.ports ∨ e.key.address.isGroup = true ∧ i ∈ v.routers
  | none => i ∈ v.flood target.2

namespace Bridge

/-- The network after a frame has been handed to a port. -/
def handOut (b : Bridge) (net : Network) (e : Emission) : Network :=
  match b.ports.port? e.port with
  | some p => net.handed p.endpoint e.frame
  | none => net

/-- Whether a port takes a frame. -/
def takes (b : Bridge) (i : PortIndex) : Bool :=
  match b.ports.port? i with
  | some p => b.network.takes p.endpoint
  | none => false

/-- A frame has gone once to each of its destinations, in the order of the ports, and nowhere else:
`g` is the frame as it was classified, `meant` says for which ports it is meant. -/
structure Delivery (b : Bridge) (h : Handle) (v : Vlan) (g : Frame) (meant : PortIndex → Prop)
    (after : Bridge) (reception : Reception) : Prop where
  ascending : (reception.sent.map (·.port)).Pairwise (· < ·)
  destinations : ∀ i, i ∈ reception.sent.map (·.port) ↔
    i ∈ b.ports.active ∧ i.val ≠ h.index ∧ i ∈ v.members ∧ meant i
  data : ∀ e ∈ reception.sent, e.frame.data = g.data
  untagged : ∀ e ∈ reception.sent, e.port ∉ v.tagged → e.frame.tag = none
  tagged : ∀ e ∈ reception.sent, e.port ∈ v.tagged → e.frame.tag = some {
    proto := b.config.vlanProtocol
    priority := (g.tag.map (·.priority)).getD 0
    dropEligible := (g.tag.map (·.dropEligible)).getD false
    vid := v.vid }
  accepted : ∀ e ∈ reception.sent, e.accepted = b.takes e.port
  network : after.network = reception.sent.foldl b.handOut b.network
  trapped : reception.trapped = none
  verdict : reception.verdict =
    if reception.sent = [] then .dropped .noDestination
    else if reception.sent.countP (·.accepted) = 0 then .dropped .transmitFailed
    else .delivered (reception.sent.countP (·.accepted))

/-! ### The frame that a port sends -/

/-- A port that sends with a tag keeps the priority of the tag that the frame came in with. -/
theorem outgoing_eq {b : Bridge} {flight : Flight} {v : Vlan}
    (hv : b.vlans.record? flight.serial = some v) (i : PortIndex) :
    b.outgoing flight i = { flight.frame with
      tag := if i ∈ v.tagged then some {
          proto := b.config.vlanProtocol
          priority := (flight.frame.tag.map (·.priority)).getD 0
          dropEligible := (flight.frame.tag.map (·.dropEligible)).getD false
          vid := flight.vid }
        else none } := by
  unfold outgoing sendsTagged
  simp only [hv, decide_eq_true_eq, Frame.withTag, egressTag]
  cases flight.frame.tag <;> rfl

/-! ### Deciding where to send -/

theorem learnSource_fst (b : Bridge) (p : Port) (c : Classification) (src : Mac) :
    ∃ cs, b.learnSource p c src =
      { b with fdb := (b.learnSource p c src).fdb, counters := cs } := by
  rcases learnSource_eq b p c src with he | ⟨-, he⟩
  · rw [he]
    exact ⟨b.counters, rfl⟩
  · rw [he]
    exact ⟨_, rfl⟩

theorem fdb_learnSource_enter (b : Bridge) (p : Port) (c : Classification) (src : Mac) :
    (b.enter.1.learnSource p c src).fdb = (b.learnSource p c src).fdb := by
  unfold learnSource
  cases c.record with
  | none => rfl
  | some r =>
    simp only
    split <;> rfl

theorem mem_resolve {b : Bridge} {v : Vlan} {vid : Vid} {f : Frame} {dst : Mac} {i : PortIndex} :
    i ∈ (b.resolve v vid f dst).1 ↔ v.Meant b.fdb (destination f vid dst) i := by
  unfold resolve Vlan.Meant
  obtain ⟨key, flood⟩ := destination f vid dst
  cases key with
  | none => exact Iff.rfl
  | some key =>
    simp only [Option.bind_some, Fdb.lookup]
    cases he : b.fdb.find? key with
    | none => exact Iff.rfl
    | some e =>
      simp only [Option.map_some, Fdb.find?_key he]
      cases key.address.isGroup <;> simp

theorem mem_reachable {b : Bridge} {p : Port} {v : Vlan} {meant : PortSet} {i : PortIndex} :
    i ∈ b.reachable p v meant ↔
      i ∈ b.ports.active ∧ i ≠ p.index ∧ i ∈ v.members ∧ i ∈ meant := by
  simp only [reachable, PortSet.mem_inter, Port.mem_egress, and_assoc]

/-- Where every listed slot holds its port, the ports are found in the order of the slots. -/
theorem map_index_ports {t : PortTable} (ht : t.Sound) {is : List PortIndex}
    (h : ∀ i ∈ is, t.Holds i) : (is.filterMap t.port?).map (·.index) = is := by
  induction is with
  | nil => rfl
  | cons i is ih =>
    obtain ⟨p, hp⟩ := PortTable.holds_iff.1 (h i (List.mem_cons_self ..))
    have hrest := ih fun j hj => h j (List.mem_cons_of_mem _ hj)
    rw [List.filterMap_cons_some hp, List.map_cons, hrest, ht.index i p hp]

theorem mem_ports_of_slots {t : PortTable} (ht : t.Sound) {is : List PortIndex} {p : Port}
    (h : p ∈ is.filterMap t.port?) : t.port? p.index = some p := by
  obtain ⟨i, -, hp⟩ := List.mem_filterMap.1 h
  rw [ht.index i p hp]
  exact hp

theorem assess_eq_route {b : Bridge} {h : Handle} {f g : Frame} {p : Port} {c : Classification}
    {r : VlanRecord} {dst src : Mac} (hp : b.ports.resolve h = .ok p)
    (hactive : p.index ∈ b.ports.active) (hheader : f.hasHeader = true) (hdst : f.dst? = some dst)
    (hsrc : f.src? = some src) (hc : b.vlans.classify p f b.config.vlanProtocol = .ok (c, g))
    (hr : c.record = some r) (hallowed : c.allowed = true)
    (htrap : b.isTrapped p.index c.vid g = false) :
    b.assess h f = (b.learnSource p c src).route p r c.vid g dst := by
  have htrap' : (b.learnSource p c src).isTrapped p.index c.vid g = false := by
    obtain ⟨cs, he⟩ := learnSource_fst b p c src
    rw [he]
    exact htrap
  unfold assess
  simp only [hp, hactive, not_true_eq_false, if_false, hheader, Bool.not_true, Bool.false_eq_true,
    hdst, hsrc, assessFrom, hc, htrap', hr, hallowed, if_true]

/-- A frame that is sent nowhere ends as one that is sent to no port at all. -/
theorem receive_eq_of_route {b l : Bridge} {h : Handle} {f g : Frame} {p : Port} {r : VlanRecord}
    {vid : Vid} {dst : Mac} (ha : b.enter.1.assess h f = l.route p r vid g dst) :
    let flight : Flight := ⟨r.serial, r.vlan.vid, g,
      (l.reachable p r.vlan (l.resolve r.vlan vid g dst).1).toList.filterMap l.ports.port?⟩
    let sent := sendAll flight flight.targets (l.count (l.resolve r.vlan vid g dst).2)
    b.receive h f = (sent.1.leave b.enter.2 (verdictOf sent.2),
      { verdict := verdictOf sent.2, sent := sent.2 }) := by
  intro flight sent
  have hports : (l.count (l.resolve r.vlan vid g dst).2).reachable p r.vlan
      (l.resolve r.vlan vid g dst).1 = l.reachable p r.vlan (l.resolve r.vlan vid g dst).1 := rfl
  unfold receive
  simp only [ha, route, hports]
  by_cases he : (l.reachable p r.vlan (l.resolve r.vlan vid g dst).1).isEmpty = true
  · have hnone : flight.targets = [] := by
      show (l.reachable p r.vlan (l.resolve r.vlan vid g dst).1).toList.filterMap _ = []
      have hlist : (l.reachable p r.vlan (l.resolve r.vlan vid g dst).1).toList = [] :=
        List.eq_nil_iff_forall_not_mem.2 fun i hi =>
          PortSet.isEmpty_iff_forall.1 he i (PortSet.mem_toList.1 hi)
      rw [hlist]
      rfl
    have hsent : sent = (l.count (l.resolve r.vlan vid g dst).2, []) := by
      show sendAll flight flight.targets _ = _
      rw [hnone]
      rfl
    simp only [he, if_true, hsent]
    rfl
  · simp only [he, if_false, Bool.false_eq_true]
    rfl

theorem receive_of_route {b l : Bridge} {h : Handle} {f g : Frame} {p : Port} {r : VlanRecord}
    {vid : Vid} {dst : Mac} (ha : b.enter.1.assess h f = l.route p r vid g dst) :
    let flight : Flight := ⟨r.serial, r.vlan.vid, g,
      (l.reachable p r.vlan (l.resolve r.vlan vid g dst).1).toList.filterMap l.ports.port?⟩
    let sent := sendAll flight flight.targets (l.count (l.resolve r.vlan vid g dst).2)
    (b.receive h f).1.network = sent.1.network ∧
      (b.receive h f).2 = { verdict := verdictOf sent.2, sent := sent.2 } := by
  intro flight sent
  rw [receive_eq_of_route ha]
  exact ⟨rfl, rfl⟩

/-! ### The whole way -/

theorem verdictOf_eq (sent : List Emission) :
    verdictOf sent =
      if sent = [] then .dropped .noDestination
      else if sent.countP (·.accepted) = 0 then .dropped .transmitFailed
      else .delivered (sent.countP (·.accepted)) := by
  unfold verdictOf Verdict.ofTally
  by_cases hnil : sent = []
  · subst hnil
    rfl
  · by_cases hnone : sent.countP (·.accepted) = 0
    · have hrefused : 0 < sent.countP (!·.accepted) := by
        obtain ⟨e, he⟩ := List.exists_mem_of_ne_nil sent hnil
        refine List.countP_pos_iff.2 ⟨e, he, ?_⟩
        have hno := List.countP_eq_zero.1 hnone e he
        simpa using hno
      simp only [hnil, hnone, Nat.lt_irrefl, hrefused, if_true, if_false]
    · simp only [hnil, hnone, Nat.pos_of_ne_zero hnone, if_true, if_false]

theorem foldl_handOut {b : Bridge} {flight : Flight} {ps : List Port}
    (hps : ∀ p ∈ ps, b.ports.port? p.index = some p) (c : Bridge) (net : Network) :
    (c.emissions flight ps).foldl b.handOut net =
      ps.foldl (fun net p => net.handed p.endpoint (c.outgoing flight p.index)) net := by
  induction ps generalizing net with
  | nil => rfl
  | cons p ps ih =>
    have hone : b.handOut net ⟨p.index, c.outgoing flight p.index, c.network.takes p.endpoint⟩ =
        net.handed p.endpoint (c.outgoing flight p.index) := by
      unfold handOut
      simp only [hps p (List.mem_cons_self ..)]
    have hrest := ih (fun q hq => hps q (List.mem_cons_of_mem _ hq))
      (net.handed p.endpoint (c.outgoing flight p.index))
    simp only [emissions, List.map_cons, List.foldl_cons] at hrest ⊢
    rw [hone, hrest]

/-- What the frame of a flight comes to that is sent from a state with the tables of another. -/
theorem delivery_of_sendAll {b c after : Bridge} {h : Handle} {p : Port} {r : VlanRecord} {g : Frame}
    {meant : PortSet} {reception : Reception} (hs : b.Sound) (hindex : p.index.val = h.index)
    (hr : r ∈ b.vlans.published) (hports : c.ports = b.ports) (hvlans : c.vlans = b.vlans)
    (hconfig : c.config = b.config) (hnet : c.network = b.network)
    (hafter : after.network = (sendAll ⟨r.serial, r.vlan.vid, g,
      (c.reachable p r.vlan meant).toList.filterMap c.ports.port?⟩
      ((c.reachable p r.vlan meant).toList.filterMap c.ports.port?) c).1.network)
    (hsent : reception.sent = (sendAll ⟨r.serial, r.vlan.vid, g,
      (c.reachable p r.vlan meant).toList.filterMap c.ports.port?⟩
      ((c.reachable p r.vlan meant).toList.filterMap c.ports.port?) c).2)
    (htrapped : reception.trapped = none) (hverdict : reception.verdict = verdictOf reception.sent) :
    Delivery b h r.vlan g (· ∈ meant) after reception := by
  generalize hf : (⟨r.serial, r.vlan.vid, g,
    (c.reachable p r.vlan meant).toList.filterMap c.ports.port?⟩ : Flight) = flight at hafter hsent
  generalize hps : (c.reachable p r.vlan meant).toList.filterMap c.ports.port? = ps at hafter hsent
  rw [hports] at hps
  obtain ⟨cs, hnetwork⟩ := sendAll_fst flight ps c
  rw [sendAll_snd] at hsent
  rw [hnetwork] at hafter
  have hslot : ∀ q ∈ ps, b.ports.port? q.index = some q := by
    intro q hq
    rw [← hps] at hq
    exact mem_ports_of_slots hs.ports hq
  have hslots : reception.sent.map (·.port) = (c.reachable p r.vlan meant).toList := by
    have hheld : ∀ i ∈ (c.reachable p r.vlan meant).toList, b.ports.Holds i := by
      intro i hi
      have hi := (mem_reachable.1 (PortSet.mem_toList.1 hi)).1
      rw [hports] at hi
      exact (hs.ports.active i).1 hi
    rw [← map_index_ports hs.ports hheld, hps, hsent]
    simp only [emissions, List.map_map]
    rfl
  have hrecord : c.vlans.record? flight.serial = some r.vlan := by
    rw [hvlans, ← hf]
    exact hs.vlans.record?_of_mem hr
  have hemission : ∀ e ∈ reception.sent, ∃ q ∈ ps,
      e = ⟨q.index, c.outgoing flight q.index, c.network.takes q.endpoint⟩ := by
    intro e he
    rw [hsent] at he
    obtain ⟨q, hq, rfl⟩ := List.mem_map.1 he
    exact ⟨q, hq, rfl⟩
  refine ⟨?_, ?_, ?_, ?_, ?_, ?_, ?_, htrapped, ?_⟩
  · rw [hslots]
    exact PortSet.toList_ascending _
  · intro i
    rw [hslots, PortSet.mem_toList, mem_reachable, hports, ← hindex, Ne, Fin.ext_iff]
  · intro e he
    obtain ⟨q, -, rfl⟩ := hemission e he
    rw [outgoing_eq hrecord, ← hf]
  · intro e he hin
    obtain ⟨q, -, rfl⟩ := hemission e he
    rw [outgoing_eq hrecord]
    exact if_neg hin
  · intro e he hin
    obtain ⟨q, -, rfl⟩ := hemission e he
    rw [outgoing_eq hrecord, ← hf, ← hconfig]
    exact if_pos hin
  · intro e he
    obtain ⟨q, hq, rfl⟩ := hemission e he
    unfold takes
    simp only [hslot q hq, hnet]
  · rw [hafter, hsent, foldl_handOut hslot, ← hnet]
    rfl
  · rw [hverdict, verdictOf_eq]

theorem exists_addresses {f : Frame} (h : f.hasHeader = true) :
    ∃ dst src, f.dst? = some dst ∧ f.src? = some src := by
  have hlen := Frame.hasHeader_iff.1 h
  obtain ⟨data, tag⟩ := f
  match data, hlen with
  | a :: b :: c :: d :: e :: f :: g :: h :: i :: j :: k :: l :: rest, _ => exact ⟨_, _, rfl, rfl⟩

/-- A frame that is classified to a VLAN which it may enter, and that the trap leaves alone, goes to
exactly those active members of the VLAN, other than the port it came in by, for which it is meant
once its own source has been learned. -/
theorem receive_forwards {b : Bridge} (hb : b.Reachable) {h : Handle} {f g : Frame} {p : Port}
    {c : Classification} {r : VlanRecord} (hp : b.ports.resolve h = .ok p)
    (hactive : p.index ∈ b.ports.active) (hheader : f.hasHeader = true)
    (hc : b.vlans.classify p f b.config.vlanProtocol = .ok (c, g)) (hr : c.record = some r)
    (hallowed : c.allowed = true) (htrap : b.isTrapped p.index c.vid g = false) :
    ∃ dst src, f.dst? = some dst ∧ f.src? = some src ∧ r.vlan.vid = c.vid ∧
      Delivery b h r.vlan g
        (r.vlan.Meant (b.learnSource p c src).fdb (destination g c.vid dst))
        (b.receive h f).1 (b.receive h f).2 := by
  have hs := hb.sound
  obtain ⟨dst, src, hdst, hsrc⟩ := exists_addresses hheader
  obtain ⟨i, hi, hpi⟩ := PortTable.resolve_eq_ok hp
  have hindex : p.index.val = h.index := by
    rw [hs.ports.index i p hpi]
    exact hi
  have hfind : b.vlans.find? c.vid = some r := by
    rw [← (VlanDb.classify_eq_ok hc).2]
    exact hr
  have ha : b.enter.1.assess h f = (b.enter.1.learnSource p c src).route p r c.vid g dst :=
    assess_eq_route hp hactive hheader hdst hsrc hc hr hallowed htrap
  have hfdb := fdb_learnSource_enter b p c src
  obtain ⟨cs, hl⟩ := learnSource_fst b.enter.1 p c src
  generalize b.enter.1.learnSource p c src = l at ha hfdb hl
  have hports : l.ports = b.ports := by rw [hl]; rfl
  have hvlans : l.vlans = b.vlans := by rw [hl]; rfl
  have hconfig : l.config = b.config := by rw [hl]; rfl
  have hnet : l.network = b.network := by rw [hl]; rfl
  obtain ⟨hnetwork, hreception⟩ := receive_of_route ha
  refine ⟨dst, src, hdst, hsrc, VlanDb.find?_vid hfind, ?_⟩
  have hmeant : r.vlan.Meant (b.learnSource p c src).fdb (destination g c.vid dst) =
      (· ∈ (l.resolve r.vlan c.vid g dst).1) := by
    funext i
    rw [← hfdb]
    exact propext mem_resolve.symm
  rw [hmeant]
  exact delivery_of_sendAll (c := l.count _) hs hindex (VlanDb.mem_of_find? hfind) hports hvlans
    hconfig hnet hnetwork (congrArg Reception.sent hreception)
    (congrArg Reception.trapped hreception) (by rw [hreception])

/-- A station of VLAN 7 has been heard behind the second port, which is a tagged member. A frame to it that
comes in by the first port meets its entry: it is meant for the second port alone, goes there and nowhere
else, and keeps its priority. -/
theorem receive_forwards_known_station :
    let seven : Vid := ⟨7, by omega⟩
    let near : Mac := ⟨2, 0, 0, 0, 0, 9⟩
    let far : Mac := ⟨2, 0, 0, 0, 0, 8⟩
    let b := (beside ["eth0", "eth1"]).run [.request (.portAdd "eth0" {}),
      .request (.portAdd "eth1" {}), .request (.vlanAdd seven),
      .request (.vlanAttach seven "eth0" false), .request (.vlanAttach seven "eth1" true),
      .request (.vlanAttach seven "ubr0" true),
      .receive ⟨2, 1⟩ ((Frame.ethernet Mac.broadcast far EtherType.ipv4 []).withTag
        (some (Tag.plain EtherType.dot1q seven)))]
    let v : Vlan :=
      ((({ vid := seven, learning := true } : Vlan).attach 1 false).attach 2 true).attach 0 true
    let f := (Frame.ethernet far near EtherType.ipv4 []).withTag
      (some ⟨EtherType.dot1q, 5, true, seven⟩)
    b.Reachable ∧
      Delivery b ⟨1, 1⟩ v f (· = 2) (b.receive ⟨1, 1⟩ f).1 (b.receive ⟨1, 1⟩ f).2 ∧
      (b.receive ⟨1, 1⟩ f).2.verdict = .delivered 1 ∧
      (b.receive ⟨1, 1⟩ f).2.sent.map (fun e => (e.port, e.frame.tag)) =
        [(2, some ⟨EtherType.dot1q, 5, true, seven⟩)] := by
  intro seven near far b v f
  let p : Port := ⟨1, 1, "eth0", .device 0, Vid.zero, {}⟩
  let c : Classification := ⟨seven, some ⟨1, v⟩, true⟩
  let e : Entry := ⟨Key.mac seven far, .dynamic, PortSet.singleton 2, 0⟩
  have hb : b.Reachable := (reachable_beside _).run _
  have hp : b.ports.resolve ⟨1, 1⟩ = .ok p := by decide +kernel
  have hc : b.vlans.classify p f b.config.vlanProtocol = .ok (c, f) := by decide +kernel
  have hentry : (b.learnSource p c near).fdb.find? (Key.mac seven far) = some e := by decide +kernel
  have hto : destination f seven far = (some (Key.mac seven far), .unicast) := by decide +kernel
  have hmeant : v.Meant (b.learnSource p c near).fdb (destination f seven far) = (· = 2) := by
    funext i
    have hstation : (Key.mac seven far).address.isGroup = false := rfl
    simp [hto, Vlan.Meant, hentry, e, hstation]
  obtain ⟨dst, src, hdst, hsrc, -, hd⟩ :=
    receive_forwards hb hp (by decide +kernel) rfl hc rfl rfl (by decide +kernel)
  cases hdst
  cases hsrc
  have hdelivery : Delivery b ⟨1, 1⟩ v f (v.Meant (b.learnSource p c near).fdb
      (destination f seven far)) (b.receive ⟨1, 1⟩ f).1 (b.receive ⟨1, 1⟩ f).2 := hd
  rw [hmeant] at hdelivery
  exact ⟨hb, hdelivery, by decide +kernel, by decide +kernel⟩

end Bridge

end VlanBridge
