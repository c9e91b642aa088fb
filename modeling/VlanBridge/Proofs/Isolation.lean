import VlanBridge.Proofs.Lockstep
/-!
# VLANs do not interfere

Whatever happens in one VLAN goes unnoticed in the others. If all frames of a VLAN are taken out of a
run, every other frame still has the same fate: it ends the same way and is sent through the same ports
in the same order with the same content. And after each event that is left, the ports, the VLANs and
the forwarding entries of the other VLANs are as they were.

The two runs go through bridges that are twins: a frame of that VLAN leaves a twin a twin, a frame of
another one does the same to both.
-/

namespace VlanBridge

open VlanBridge.Net

theorem vid_of_destination {f : Frame} {vid : Vid} {dst : Mac} {key : Key}
    (h : (destination f vid dst).1 = some key) : key.vid = vid := by
  unfold destination at h
  split at h
  · cases h
  · split at h
    · cases h
      rfl
    · cases h
      rfl

namespace Bridge

variable {v : Vid} {b c : Bridge}

/-- The VLAN that a frame which comes in is classified to, whether or not it may enter it. -/
def effectiveVid? (b : Bridge) (h : Handle) (f : Frame) : Option Vid :=
  (b.classified? h f).map (·.2.1.vid)

/-! ### A frame of another VLAN -/

theorem Alike.count (h : Alike v b c) (k : Counter) : Alike v (b.count k) (c.count k) := by
  cases h with
  | mk he hd hn => exact .mk he hd hn

theorem waiting_enter (b : Bridge) : b.enter.1.waiting = b.waiting := by
  have hqueue : b.enter.1.reclaimer.queue = b.reclaimer.queue := b.reclaimer.pin_queue
  rw [waiting, waiting, hqueue]

theorem waiting_leave (b : Bridge) (guard : Guard) (verdict : Verdict) :
    (b.leave guard verdict).waiting = b.waiting := by
  have hqueue : (b.leave guard verdict).reclaimer.queue = b.reclaimer.queue :=
    b.reclaimer.unpin_queue guard
  rw [waiting, waiting, hqueue]

theorem Alike.enter (h : Alike v b c) : Alike v b.enter.1 c.enter.1 := by
  have hduties : Release.duties c.enter.1.waiting = Release.duties b.enter.1.waiting := by
    rw [waiting_enter, waiting_enter, h.waiting]
  cases h with
  | mk he hd hn => exact .mk he hduties hn

theorem Alike.leave (h : Alike v b c) (guard guard' : Guard) (verdict : Verdict) :
    Alike v (b.leave guard verdict) (c.leave guard' verdict) := by
  have hduties : Release.duties (c.leave guard' verdict).waiting =
      Release.duties (b.leave guard verdict).waiting := by
    rw [waiting_leave, waiting_leave, h.waiting]
  cases h with
  | mk he hd hn => exact .mk he hduties hn

theorem Alike.learnSource (h : Alike v b c) (hb : b.fdb.Sorted) (hc : c.fdb.Sorted) (p : Port)
    {k : Classification} (hv : k.vid ≠ v) (src : Mac) :
    Alike v (b.learnSource p k src) (c.learnSource p k src) := by
  cases h with
  | @mk t cs r net he hd hn =>
    unfold Bridge.learnSource
    cases k.record with
    | none => exact .mk he hd hn
    | some record =>
      by_cases hlearns : (p.ingress.learning && record.vlan.learning) = true
      · simp only [hlearns, if_true]
        exact .mk (he.learn hb hc hv src p.index b.clock) hd hn
      · simp only [hlearns, if_false, Bool.false_eq_true]
        exact .mk he hd hn

theorem Alike.resolve (h : Alike v b c) (w : Vlan) {vid : Vid} (hv : vid ≠ v) (f : Frame)
    (dst : Mac) : c.resolve w vid f dst = b.resolve w vid f dst := by
  have hlookup : ∀ key, (destination f vid dst).1 = some key →
      c.fdb.lookup key w.routers = b.fdb.lookup key w.routers := by
    intro key hkey
    refine h.fdb.lookup ?_ w.routers
    rw [vid_of_destination hkey]
    exact hv
  unfold Bridge.resolve
  cases hdest : destination f vid dst with
  | mk key flood =>
    cases key with
    | none => rfl
    | some key => simp only [hlookup key (congrArg Prod.fst hdest)]

theorem Alike.isTrapped (h : Alike v b c) (ingress : PortIndex) (vid : Vid) (f : Frame) :
    c.isTrapped ingress vid f = b.isTrapped ingress vid f := by
  cases h with
  | mk he hd hn => rfl

theorem route_snd (b : Bridge) (p : Port) (r : VlanRecord) (vid : Vid) (f : Frame) (dst : Mac) :
    (b.route p r vid f dst).2 =
      let targets := b.reachable p r.vlan (b.resolve r.vlan vid f dst).1
      if targets.isEmpty then .dropped .noDestination
      else .forward ⟨r.serial, r.vlan.vid, f, targets.toList.filterMap b.ports.port?⟩ := by
  unfold Bridge.route
  simp only [apply_ite Prod.snd]
  rfl

theorem Alike.route (h : Alike v b c) (p : Port) (r : VlanRecord) {vid : Vid} (hv : vid ≠ v)
    (f : Frame) (dst : Mac) :
    Alike v (b.route p r vid f dst).1 (c.route p r vid f dst).1 ∧
      (c.route p r vid f dst).2 = (b.route p r vid f dst).2 := by
  have hresolve := h.resolve r.vlan hv f dst
  rw [route_fst, route_fst, route_snd, route_snd, hresolve]
  refine ⟨h.count _, ?_⟩
  cases h with
  | mk he hd hn => rfl

theorem Alike.assessFrom (h : Alike v b c) (hb : b.fdb.Sorted) (hc : c.fdb.Sorted) {p : Port}
    {f : Frame} (hv : ∀ k g, b.vlans.classify p f b.config.vlanProtocol = .ok (k, g) → k.vid ≠ v)
    (dst src : Mac) :
    Alike v (b.assessFrom p f dst src).1 (c.assessFrom p f dst src).1 ∧
      (c.assessFrom p f dst src).2 = (b.assessFrom p f dst src).2 := by
  unfold Bridge.assessFrom
  rw [h.vlans, h.config]
  cases hk : b.vlans.classify p f b.config.vlanProtocol with
  | error reason => exact ⟨h, rfl⟩
  | ok classified =>
    obtain ⟨k, g⟩ := classified
    have hvid := hv k g hk
    have hlearned := h.learnSource hb hc p hvid src
    simp only [hlearned.isTrapped]
    by_cases htrap : (b.learnSource p k src).isTrapped p.index k.vid g = true
    · simp only [htrap, if_true]
      exact ⟨hlearned, trivial⟩
    · simp only [htrap, if_false, Bool.false_eq_true]
      cases k.record with
      | none => exact ⟨hlearned, rfl⟩
      | some r =>
        by_cases hallowed : k.allowed = true
        · simp only [hallowed, if_true]
          exact hlearned.route p r hvid g dst
        · simp only [hallowed, if_false, Bool.false_eq_true]
          exact ⟨hlearned, trivial⟩

theorem Alike.assess (h : Alike v b c) (hb : b.fdb.Sorted) (hc : c.fdb.Sorted) {handle : Handle}
    {f : Frame} (hv : b.effectiveVid? handle f ≠ some v) :
    Alike v (b.assess handle f).1 (c.assess handle f).1 ∧
      (c.assess handle f).2 = (b.assess handle f).2 := by
  unfold Bridge.assess
  rw [h.ports]
  cases hp : b.ports.resolve handle with
  | error e => exact ⟨h, rfl⟩
  | ok p =>
    simp only
    split
    · exact ⟨h, rfl⟩
    · rename_i hactive
      split
      · exact ⟨h, rfl⟩
      · rename_i hheader
        split
        · refine h.assessFrom hb hc ?_ _ _
          intro k g hk hvid
          have hactive : p.index ∈ b.ports.active := Decidable.not_not.1 hactive
          have hheader : f.hasHeader = true := by simpa using hheader
          refine hv ?_
          unfold effectiveVid?
          rw [classified?_eq hp hactive hheader hk, ← hvid]
          rfl
        · exact ⟨h, rfl⟩

theorem Alike.emissions (h : Alike v b c) (flight : Flight) (ps : List Port) :
    c.emissions flight ps = b.emissions flight ps := by
  cases h with
  | mk he hd hn =>
    unfold Bridge.emissions
    simp only [hn.takes]
    rfl

theorem Alike.sendAll (h : Alike v b c) (flight : Flight) (ps : List Port) :
    Alike v (sendAll flight ps b).1 (sendAll flight ps c).1 ∧
      (sendAll flight ps c).2 = (sendAll flight ps b).2 := by
  obtain ⟨cs, hb⟩ := sendAll_fst flight ps b
  obtain ⟨ds, hc⟩ := sendAll_fst flight ps c
  rw [sendAll_snd, sendAll_snd, hb, hc]
  refine ⟨?_, h.emissions flight ps⟩
  have hsent := alike_networkAfter b flight ps
  have hsent' := alike_networkAfter c flight ps
  cases h with
  | mk he hd hn => exact .mk he hd ((hsent.symm.trans hn).trans hsent')

/-- A frame of another VLAN has the same fate in both. -/
theorem Alike.receive (h : Alike v b c) (hb : b.fdb.Sorted) (hc : c.fdb.Sorted) {handle : Handle}
    {f : Frame} (hv : b.effectiveVid? handle f ≠ some v) :
    Alike v (b.receive handle f).1 (c.receive handle f).1 ∧
      (c.receive handle f).2 = (b.receive handle f).2 := by
  obtain ⟨hafter, hadmission⟩ := h.enter.assess hb hc hv
  unfold Bridge.receive
  simp only
  generalize b.enter.1.assess handle f = decided at hafter hadmission ⊢
  generalize c.enter.1.assess handle f = decided' at hafter hadmission ⊢
  obtain ⟨d, admission⟩ := decided
  obtain ⟨d', admission'⟩ := decided'
  simp only at hafter hadmission
  subst hadmission
  cases admission' with
  | dropped reason => exact ⟨hafter.leave b.enter.2 c.enter.2 (.dropped reason), rfl⟩
  | trapped ingress vid g =>
    exact ⟨(hafter.count .trapped).leave b.enter.2 c.enter.2 .trapped, rfl⟩
  | forward flight =>
    obtain ⟨hsent, hemissions⟩ := hafter.sendAll flight flight.targets
    simp only [hemissions]
    exact ⟨hsent.leave _ _ _, trivial⟩

theorem Taught.sorted {handle : Handle} {f : Frame} {t : Fdb} (ht : Taught b handle f t)
    (hb : b.fdb.Sorted) : t.Sorted := by
  cases ht with
  | nothing => exact hb
  | source src hk hr => exact hb.learn src _ _ _

/-- Nothing waits for a frame once it is through. -/
theorem receive_rest (b : Bridge) (handle : Handle) (f : Frame) (hb : b.fdb.Sorted) :
    (b.receive handle f).1.reclaimer = b.reclaimer ∧ (b.receive handle f).1.fdb.Sorted := by
  obtain ⟨t, net, cs, hafter, ht, -⟩ := receive_fst b handle f
  rw [hafter]
  exact ⟨rfl, ht.sorted hb⟩

theorem Twins.receive (h : Twins v b c) {handle : Handle} {f : Frame}
    (hv : b.effectiveVid? handle f ≠ some v) :
    Twins v (b.receive handle f).1 (c.receive handle f).1 ∧
      (c.receive handle f).2 = (b.receive handle f).2 := by
  obtain ⟨halike, hsame⟩ := h.alike.receive h.sorted h.sorted' hv
  obtain ⟨hrest, hsorted⟩ := receive_rest b handle f h.sorted
  obtain ⟨hrest', hsorted'⟩ := receive_rest c handle f h.sorted'
  refine ⟨⟨⟨halike, ?_, ?_, hsorted, hsorted'⟩, ?_⟩, hsame⟩
  · rw [hrest]
    exact h.idle
  · rw [hrest']
    exact h.idle'
  · rw [waiting, hrest]
    exact h.quiet

/-! ### A frame of the VLAN itself -/

theorem Taught.alike {handle : Handle} {f : Frame} {t : Fdb} (ht : Taught b handle f t)
    (hb : b.fdb.Sorted) (hv : b.effectiveVid? handle f = some v) : b.fdb.Alike v t := by
  cases ht with
  | nothing => exact .refl v _
  | @source p k g r src hk hr =>
    have hvid : k.vid = v := by
      unfold effectiveVid? at hv
      rw [hk] at hv
      exact Option.some.inj hv
    rw [hvid]
    exact Fdb.alike_learn hb src v p.index b.clock

/-- A frame of the VLAN that one of the twins is spared makes no difference. -/
theorem Twins.receive_left (h : Twins v b c) {handle : Handle} {f : Frame}
    (hv : b.effectiveVid? handle f = some v) : Twins v (b.receive handle f).1 c := by
  obtain ⟨t, net, cs, hafter, ht, hnet⟩ := receive_fst b handle f
  have halike := ht.alike h.sorted hv
  rw [hafter]
  refine ⟨⟨?_, h.idle, h.idle', ht.sorted h.sorted, h.sorted'⟩, h.quiet⟩
  cases h.alike with
  | mk he hd hn => exact .mk (halike.symm.trans he) hd (hnet.symm.trans hn)

end Bridge

/-! ### Runs -/

/-- An event and the state in which it happens. -/
structure Moment where
  before : Bridge
  event : Event

namespace Moment

/-- The state after the event. -/
def after (m : Moment) : Bridge := m.before.next m.event

/-- What becomes of the frame, if one comes in. -/
def reception? (m : Moment) : Option Reception :=
  match m.event with
  | .receive h f => some (m.before.receive h f).2
  | _ => none

/-- Whether a frame of a VLAN comes in. -/
def isIn (m : Moment) (v : Vid) : Bool :=
  match m.event with
  | .receive h f => m.before.effectiveVid? h f = some v
  | _ => false

/-- The same happens at both moments, as far as the other VLANs can tell. -/
structure SameOff (v : Vid) (m n : Moment) : Prop where
  event : n.event = m.event
  reception : n.reception? = m.reception?
  entries : n.after.fdb.off v = m.after.fdb.off v
  ports : n.after.ports = m.after.ports
  vlans : n.after.vlans = m.after.vlans

end Moment

namespace Bridge

variable {v : Vid} {b c : Bridge}

/-- The moments of a run. -/
def history (b : Bridge) : List Event → List Moment
  | [] => []
  | e :: es => ⟨b, e⟩ :: (b.next e).history es

theorem Twins.next_left (h : Twins v b c) {e : Event} (he : Moment.isIn ⟨b, e⟩ v = true) :
    Twins v (b.next e) c := by
  cases e with
  | receive handle f => exact h.receive_left (of_decide_eq_true he)
  | perform | request | wake | clock | trap | network => cases he

theorem Twins.next (h : Twins v b c) {e : Event} (he : Moment.isIn ⟨b, e⟩ v = false) :
    Twins v (b.next e) (c.next e) ∧ Moment.reception? ⟨c, e⟩ = Moment.reception? ⟨b, e⟩ := by
  cases e with
  | perform op control => exact ⟨h.perform control, rfl⟩
  | request r => exact ⟨h.handle r, rfl⟩
  | receive handle f =>
    obtain ⟨htwins, hsame⟩ := h.receive (of_decide_eq_false he)
    exact ⟨htwins, congrArg some hsame⟩
  | wake now => exact ⟨h.wake now, rfl⟩
  | clock now => exact ⟨h.map (indifferent_clock now), rfl⟩
  | trap trap => exact ⟨h.map (f := fun b => { b with trap }) fun _ _ _ _ _ => rfl, rfl⟩
  | network network => exact ⟨h.network (.refl network), rfl⟩

theorem Twins.sameOff (h : Twins v b c) {e : Event} (he : Moment.isIn ⟨b, e⟩ v = false) :
    Moment.SameOff v ⟨b, e⟩ ⟨c, e⟩ := by
  obtain ⟨hafter, hreception⟩ := h.next he
  exact ⟨rfl, hreception, hafter.alike.fdb.off, hafter.alike.ports, hafter.alike.vlans⟩

/-- A run of one twin, and the run of the other without the frames of the VLAN. -/
theorem Twins.history (h : Twins v b c) (events : List Event) :
    let kept := (b.history events).filter (!·.isIn v)
    List.Forall₂ (Moment.SameOff v) kept (c.history (kept.map (·.event))) := by
  induction events generalizing b c with
  | nil => exact .nil
  | cons e es ih =>
    simp only [Bridge.history, List.filter_cons]
    -- a frame of the VLAN takes the first run one step on and leaves the second where it is
    cases he : Moment.isIn ⟨b, e⟩ v with
    | true => exact ih (h.next_left he)
    | false => exact .cons (h.sameOff he) (ih (h.next he).1)

theorem Twins.refl (hs : b.Sound) (hq : Release.duties b.waiting = []) (v : Vid) : Twins v b b :=
  ⟨⟨.refl v b, hs.tracks, hs.tracks, hs.entries, hs.entries⟩, hq⟩

/-- Between two events nothing waits but releases of entries. -/
theorem Reachable.quiet (hb : b.Reachable) : Release.duties b.waiting = [] := by
  induction hb with
  | create h =>
    rw [create_eq_ok h]
    rfl
  | @next b e hb ih =>
    -- which VLAN does not matter: the twin that has seen the event is quiet either way
    have htwins := Twins.refl hb.sound ih Vid.zero
    cases he : Moment.isIn ⟨b, e⟩ Vid.zero with
    | true => exact (htwins.next_left he).quiet
    | false => exact (htwins.next he).1.quiet

/-- If the frames of one VLAN are taken out of a run, every other frame has the same fate, and after
every event that is left the entries of the other VLANs, the ports and the VLANs are the same. -/
theorem history_without_vlan (hb : b.Reachable) (v : Vid) (events : List Event) :
    let kept := (b.history events).filter (!·.isIn v)
    List.Forall₂ (Moment.SameOff v) kept (b.history (kept.map (·.event))) :=
  (Twins.refl hb.sound hb.quiet v).history events

/-- Two ports in two VLANs: the frame of VLAN 7 is taken out, the two of VLAN 0 stay, and a flush finds
an entry less. -/
theorem history_without_vlan_seven :
    let start : Bridge := {
      fdb := { ageing := 300000000000 }
      config := {}
      ports := (PortTable.ofName "ubr0").activate localPort
      vlans := (VlanDb.initial true).modify Vid.zero (·.attach localPort false)
      network := {
        devices := #[{ name := "eth0", mac := ⟨2, 0, 0, 0, 0, 1⟩ },
          { name := "eth1", mac := ⟨2, 0, 0, 0, 0, 2⟩ }]
        registry := [("eth0", 0), ("eth1", 1)] } }
    let seven : Vid := ⟨7, Nat.le_of_ble_eq_true rfl⟩
    let station : Mac := ⟨2, 0, 0, 0, 0, 9⟩
    let events : List Event := [.request (.portAdd "eth0" {}), .request (.portAdd "eth1" {}),
      .request (.vlanAdd seven), .request (.portSetPvid "eth0" seven),
      .receive ⟨2, 1⟩ (Frame.ethernet Mac.broadcast station EtherType.ipv4 []),
      .receive ⟨1, 1⟩ (Frame.ethernet station ⟨2, 0, 0, 0, 0, 8⟩ EtherType.ipv4 []),
      .receive ⟨2, 1⟩ (Frame.ethernet Mac.broadcast station EtherType.ipv4 []),
      .request (.fdbFlush none none none false)]
    let kept := (start.history events).filter (!·.isIn seven)
    start.Reachable ∧ events.length = 8 ∧ kept.length = 7 ∧
      List.Forall₂ (Moment.SameOff seven) kept (start.history (kept.map (·.event))) := by
  intro start seven station events kept
  have hstart : Bridge.create {} start.network = .ok start := rfl
  have hb : start.Reachable := .create hstart
  exact ⟨hb, rfl, by decide +kernel, history_without_vlan hb seven events⟩

end Bridge

end VlanBridge
