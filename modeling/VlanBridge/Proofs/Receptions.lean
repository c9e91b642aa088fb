import VlanBridge.Proofs.Networks
import VlanBridge.Proofs.Transitions
/-!
# What a frame does to a bridge

A frame that comes in may teach the forwarding table its source, and it changes counters and devices;
all else is as before (`receive_fst`). That completes the transitions of the events.
-/

namespace VlanBridge

open VlanBridge.Net

theorem VlanDb.classify_eq_ok {db : VlanDb} {p : Port} {f g : Frame} {proto : EtherType}
    {c : Classification} (h : db.classify p f proto = .ok (c, g)) :
    c.vid = effectiveVid p g.tag ∧ c.record = db.find? c.vid := by
  unfold classify at h
  split at h
  · cases h
  · cases h
    exact ⟨rfl, rfl⟩

namespace Bridge

/-- The port that a frame comes in by, what is found out about the frame, and the frame with its tag
taken out; nothing if it is dropped before that is known. -/
def classified? (b : Bridge) (h : Handle) (f : Frame) : Option (Port × Classification × Frame) :=
  match b.ports.resolve h with
  | .error _ => none
  | .ok p =>
    if p.index ∈ b.ports.active ∧ f.hasHeader = true then
      match b.vlans.classify p f b.config.vlanProtocol with
      | .error _ => none
      | .ok (c, g) => some (p, c, g)
    else none

/-- The forwarding table may be so after a frame has come in. -/
inductive Taught (b : Bridge) (h : Handle) (f : Frame) : Fdb → Prop where
  | nothing : Taught b h f b.fdb
  | source {p : Port} {c : Classification} {g : Frame} {r : VlanRecord} (src : Mac)
      (hc : b.classified? h f = some (p, c, g)) (hr : c.record = some r) :
      Taught b h f (b.fdb.learn src c.vid p.index b.clock).1

theorem classified?_eq_some {b : Bridge} {h : Handle} {f g : Frame} {p : Port} {c : Classification}
    (hc : b.classified? h f = some (p, c, g)) :
    b.ports.resolve h = .ok p ∧ b.vlans.classify p f b.config.vlanProtocol = .ok (c, g) := by
  unfold classified? at hc
  split at hc
  · cases hc
  · split at hc
    · split at hc
      · cases hc
      · cases hc
        exact ⟨‹_›, ‹_›⟩
    · cases hc

theorem classified?_eq {b : Bridge} {h : Handle} {f g : Frame} {p : Port} {c : Classification}
    (hp : b.ports.resolve h = .ok p) (hactive : p.index ∈ b.ports.active)
    (hheader : f.hasHeader = true) (hc : b.vlans.classify p f b.config.vlanProtocol = .ok (c, g)) :
    b.classified? h f = some (p, c, g) := by
  unfold classified?
  simp only [hp, hactive, hheader, and_self, if_true, hc]

/-! ### Deciding about a frame -/

theorem learnSource_eq (b : Bridge) (p : Port) (c : Classification) (src : Mac) :
    b.learnSource p c src = b ∨ (∃ r, c.record = some r) ∧
      b.learnSource p c src = b.withLearning (b.toLearning.learn src c.vid p.index b.clock).1 := by
  unfold learnSource
  split
  · rename_i r hr
    split
    · exact Or.inr ⟨⟨r, hr⟩, rfl⟩
    · exact Or.inl rfl
  · exact Or.inl rfl

theorem route_fst (b : Bridge) (p : Port) (r : VlanRecord) (vid : Vid) (f : Frame) (dst : Mac) :
    (b.route p r vid f dst).1 = b.count (b.resolve r.vlan vid f dst).2 := by
  unfold route
  simp only
  split <;> rfl

theorem assessFrom_fst (b : Bridge) (p : Port) (f : Frame) (dst src : Mac) :
    ∃ t cs, (b.assessFrom p f dst src).1 = { b with fdb := t, counters := cs } ∧
      (t = b.fdb ∨ ∃ c g r, b.vlans.classify p f b.config.vlanProtocol = .ok (c, g) ∧
        c.record = some r ∧ t = (b.fdb.learn src c.vid p.index b.clock).1) := by
  unfold assessFrom
  split
  · exact ⟨b.fdb, b.counters, rfl, Or.inl rfl⟩
  · rename_i c g hc
    have hlearn : ∃ t cs, b.learnSource p c src = { b with fdb := t, counters := cs } ∧
        (t = b.fdb ∨ ∃ r, c.record = some r ∧ t = (b.fdb.learn src c.vid p.index b.clock).1) := by
      rcases learnSource_eq b p c src with he | ⟨⟨r, hr⟩, he⟩
      · exact ⟨b.fdb, b.counters, he, Or.inl rfl⟩
      · exact ⟨_, _, he, Or.inr ⟨r, hr, rfl⟩⟩
    obtain ⟨t, cs, he, ht⟩ := hlearn
    have ht : t = b.fdb ∨ ∃ c g r, b.vlans.classify p f b.config.vlanProtocol = .ok (c, g) ∧
        c.record = some r ∧ t = (b.fdb.learn src c.vid p.index b.clock).1 := by
      rcases ht with ht | ⟨r, hr, ht⟩
      · exact Or.inl ht
      · exact Or.inr ⟨c, g, r, hc, hr, ht⟩
    simp only [he]
    split
    · exact ⟨t, cs, rfl, ht⟩
    · split
      · split
        · rw [route_fst]
          exact ⟨t, _, rfl, ht⟩
        · exact ⟨t, cs, rfl, ht⟩
      · exact ⟨t, cs, rfl, ht⟩

theorem assess_fst (b : Bridge) (h : Handle) (f : Frame) :
    ∃ t cs, (b.assess h f).1 = { b with fdb := t, counters := cs } ∧ Taught b h f t := by
  unfold assess
  split
  · exact ⟨b.fdb, b.counters, rfl, .nothing⟩
  · rename_i p hp
    split
    · exact ⟨b.fdb, b.counters, rfl, .nothing⟩
    · rename_i hactive
      split
      · exact ⟨b.fdb, b.counters, rfl, .nothing⟩
      · rename_i hheader
        split
        · rename_i dst src _ _
          obtain ⟨t, cs, he, ht⟩ := assessFrom_fst b p f dst src
          refine ⟨t, cs, he, ?_⟩
          rcases ht with rfl | ⟨c, g, r, hc, hr, rfl⟩
          · exact .nothing
          · have hactive : p.index ∈ b.ports.active := Decidable.not_not.1 hactive
            have hheader : f.hasHeader = true := by simpa using hheader
            exact .source src (classified?_eq hp hactive hheader hc) hr
        · exact ⟨b.fdb, b.counters, rfl, .nothing⟩

/-! ### Sending it -/

/-- What is seen of a frame that is sent to some ports. -/
def emissions (b : Bridge) (flight : Flight) (ps : List Port) : List Emission :=
  ps.map fun p => ⟨p.index, b.outgoing flight p.index, b.network.takes p.endpoint⟩

/-- The network after a frame has been sent to some ports. -/
def networkAfter (b : Bridge) (flight : Flight) (ps : List Port) : Network :=
  ps.foldl (fun net p => net.handed p.endpoint (b.outgoing flight p.index)) b.network

theorem send_eq (b : Bridge) (flight : Flight) (p : Port) :
    (∃ cs, (b.send flight p).1 = { b with
      network := b.network.handed p.endpoint (b.outgoing flight p.index)
      counters := cs }) ∧
    (b.send flight p).2 =
      ⟨p.index, b.outgoing flight p.index, b.network.takes p.endpoint⟩ := by
  unfold send handOver
  cases p.endpoint with
  | localStack => exact ⟨⟨_, rfl⟩, rfl⟩
  | device id =>
    refine ⟨⟨_, rfl⟩, ?_⟩
    simp only [Network.transmit_snd]

theorem sendAll_cons (flight : Flight) (p : Port) (ps : List Port) (b : Bridge) :
    sendAll flight (p :: ps) b = ((sendAll flight ps (b.send flight p).1).1,
      (b.send flight p).2 :: (sendAll flight ps (b.send flight p).1).2) := rfl

theorem sendAll_fst (flight : Flight) (ps : List Port) (b : Bridge) :
    ∃ cs, (sendAll flight ps b).1 =
      { b with network := b.networkAfter flight ps, counters := cs } := by
  induction ps generalizing b with
  | nil => exact ⟨b.counters, rfl⟩
  | cons p ps ih =>
    obtain ⟨⟨cs, hone⟩, -⟩ := send_eq b flight p
    obtain ⟨cs', hrest⟩ := ih (b.send flight p).1
    refine ⟨cs', ?_⟩
    rw [sendAll_cons, hrest, hone]
    rfl

/-- Each port takes the frame or not as it would have done at first. -/
theorem sendAll_snd (flight : Flight) (ps : List Port) (b : Bridge) :
    (sendAll flight ps b).2 = b.emissions flight ps := by
  induction ps generalizing b with
  | nil => rfl
  | cons p ps ih =>
    obtain ⟨⟨cs, hone⟩, hemission⟩ := send_eq b flight p
    rw [sendAll_cons, hemission, ih, hone]
    simp only [emissions, List.map_cons, Network.takes_handed]
    rfl

theorem alike_networkAfter (b : Bridge) (flight : Flight) (ps : List Port) :
    b.network.Alike (b.networkAfter flight ps) := by
  have hall : ∀ net : Network, net.Alike
      (ps.foldl (fun net p => net.handed p.endpoint (b.outgoing flight p.index)) net) := by
    induction ps with
    | nil => exact Network.Alike.refl
    | cons p ps ih => exact fun net => (Network.alike_handed net _ _).trans (ih _)
  exact hall b.network

/-! ### The whole way -/

theorem leave_eq (b : Bridge) (guard : Guard) (verdict : Verdict) :
    ∃ cs, b.leave guard verdict =
      { b with counters := cs, reclaimer := b.reclaimer.unpin guard } := ⟨_, rfl⟩

theorem leave_enter (b : Bridge) (t : Fdb) (net : Network) (cs : Counters) (verdict : Verdict) :
    ∃ cs', ({ b.enter.1 with fdb := t, network := net, counters := cs } : Bridge).leave b.enter.2
      verdict = { b with fdb := t, network := net, counters := cs' } := by
  have hback : b.reclaimer.pin.1.unpin b.reclaimer.pin.2 = b.reclaimer := b.reclaimer.unpin_pin
  obtain ⟨cs', he⟩ := leave_eq { b.enter.1 with fdb := t, network := net, counters := cs }
    b.enter.2 verdict
  refine ⟨cs', ?_⟩
  rw [he]
  simp only [enter, count]
  rw [hback]

/-- A frame leaves a bridge as it was, but for the counters, the frames that devices have sent, and the
entry of its source. -/
theorem receive_fst (b : Bridge) (h : Handle) (f : Frame) :
    ∃ t net cs, (b.receive h f).1 = { b with fdb := t, network := net, counters := cs } ∧
      Taught b h f t ∧ b.network.Alike net := by
  obtain ⟨t, cs, ha, ht⟩ := assess_fst b.enter.1 h f
  have ht : Taught b h f t := by
    cases ht with
    | nothing => exact .nothing
    | source src hc hr => exact .source src hc hr
  unfold receive
  simp only
  split
  · rename_i reason hs
    have hb := (congrArg Prod.fst hs).symm.trans ha
    obtain ⟨cs', he⟩ := leave_enter b t b.network cs (.dropped reason)
    refine ⟨t, b.network, cs', ?_, ht, .refl _⟩
    simp only at hb
    simp only [hb]
    exact he
  · rename_i ingress vid g hs
    have hb := (congrArg Prod.fst hs).symm.trans ha
    obtain ⟨cs', he⟩ := leave_enter b t b.network (cs.count .trapped) .trapped
    refine ⟨t, b.network, cs', ?_, ht, .refl _⟩
    simp only at hb
    simp only [hb]
    exact he
  · rename_i c flight hs
    have hb := (congrArg Prod.fst hs).symm.trans ha
    simp only at hb
    subst hb
    obtain ⟨cs', hsent⟩ := sendAll_fst flight flight.targets
      { b.enter.1 with fdb := t, counters := cs }
    have halike := alike_networkAfter { b.enter.1 with fdb := t, counters := cs } flight
      flight.targets
    obtain ⟨cs'', he⟩ := leave_enter b t _ cs' (verdictOf (sendAll flight flight.targets
      { b.enter.1 with fdb := t, counters := cs }).2)
    refine ⟨t, _, cs'', ?_, ht, halike⟩
    simp only [hsent]
    exact he

theorem receive_path (b : Bridge) (h : Handle) (f : Frame) : Path b (b.receive h f).1 := by
  obtain ⟨t, net, cs, he, ht, -⟩ := receive_fst b h f
  have hlearn : Path b { b with fdb := t } := by
    cases ht with
    | nothing => exact .refl
    | @source p c g r src hc hr =>
      obtain ⟨hp, hc⟩ := classified?_eq_some hc
      obtain ⟨i, -, hp⟩ := PortTable.resolve_eq_ok hp
      have hv : b.vlans.Has c.vid := by
        unfold VlanDb.Has
        rw [← (VlanDb.classify_eq_ok hc).2, hr]
        rfl
      exact (Transition.learned src b.clock hp hv).path
  rw [he]
  exact hlearn.tail (.aside ⟨rfl, rfl, rfl, rfl, rfl⟩)

/-! ### Events -/

/-- Every event is made of transitions. -/
theorem next_path (b : Bridge) (e : Event) : Path b (b.next e) := by
  cases e with
  | perform op control => exact perform_path b control
  | request r =>
    show Path b (b.handle r).1
    rw [handle_fst]
    cases hop : b.operation? r with
    | none => exact .refl
    | some op => exact perform_path b (operation?_eq_some hop).1
  | receive h f => exact receive_path b h f
  | wake now => exact wake_path b now
  | clock now => exact Aside.path ⟨rfl, rfl, rfl, rfl, rfl⟩
  | trap trap => exact Aside.path ⟨rfl, rfl, rfl, rfl, rfl⟩
  | network network => exact Aside.path ⟨rfl, rfl, rfl, rfl, rfl⟩

/-- What a new bridge has and every transition keeps, a bridge always has. -/
theorem Reachable.induction {P : Bridge → Prop}
    (create : ∀ {config network b}, Bridge.create config network = .ok b → P b)
    (transition : ∀ {b c}, P b → Transition b c → P c) {b : Bridge} (hb : Reachable b) : P b := by
  have along : ∀ {b c}, P b → Path b c → P c := by
    intro b c hb hpath
    induction hpath with
    | refl => exact hb
    | tail _ h ih => exact transition ih h
  induction hb with
  | create h => exact create h
  | next e _ ih => exact along ih (next_path _ e)

end Bridge

end VlanBridge
