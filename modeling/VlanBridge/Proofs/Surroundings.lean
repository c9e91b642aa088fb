import VlanBridge.Proofs.PortRecords
/-!
# What operations do to the devices

An operation may enslave a device or release one, and it may count the entries that it removes. To the
devices and to the counters of frames nothing else of it is to be seen: every operation is made of a few
effects (`next_effects`), of which all but two go unseen.
-/

namespace VlanBridge

open VlanBridge.Net

/-- Whether a counter counts entries, and not frames. -/
def Counter.ofEntries : Counter → Bool
  | .learned | .learnRaces | .stationMoves | .aged | .flushed => true
  | _ => false

namespace Counters

/-- Two sets of counters have counted the same frames. -/
def SameFrames (cs ds : Counters) : Prop := ∀ k, k.ofEntries = false → ds.get k = cs.get k

variable {cs ds es : Counters}

theorem SameFrames.refl (cs : Counters) : cs.SameFrames cs := fun _ _ => rfl

theorem SameFrames.trans (h : cs.SameFrames ds) (k : ds.SameFrames es) : cs.SameFrames es :=
  fun c hc => (k c hc).trans (h c hc)

theorem sameFrames_add (cs : Counters) {c : Counter} (hc : c.ofEntries = true) (n : UInt64) :
    cs.SameFrames (cs.add c n) := by
  intro k hk
  have hne : ¬ k = c := by
    rintro rfl
    rw [hc] at hk
    cases hk
  rw [get_add, if_neg hne]

end Counters

namespace Bridge

variable {b c d : Bridge} {guards : List Guard}

/-- A change that no device notices and no counter of frames. -/
structure Unseen (b c : Bridge) : Prop where
  config : c.config = b.config
  ports : ∀ i, (c.ports.port? i).map Port.fixed = (b.ports.port? i).map Port.fixed
  network : c.network = b.network
  counters : b.counters.SameFrames c.counters

/-- One thing that an operation does, as far as it is seen by devices and by counters of frames. -/
inductive Effect : Bridge → Bridge → Prop where
  | unseen {b c : Bridge} (h : Unseen b c) : Effect b c
  | enslaved {b : Bridge} {i : PortIndex} {id : DeviceId} {d e : Device} (name : String)
      (ingress : IngressDefaults) (hi : b.ports.port? i = none) (hd : b.network.device? id = some d)
      (he : d.enslave b.config.name = .ok e) :
      Effect b { b with
        ports := (b.ports.install i name (.device id) ingress).1
        network := b.network.modifyDevice id fun _ => e }
  | released {b : Bridge} {i : PortIndex} {p : Port} (hp : b.ports.port? i = some p) :
      Effect b (({ b with ports := b.ports.clear i } : Bridge).releaseDevice p)

abbrev Effects : Bridge → Bridge → Prop := Relation.ReflTransGen Effect

theorem Unseen.refl (b : Bridge) : Unseen b b := ⟨rfl, fun _ => rfl, rfl, .refl _⟩

theorem Unseen.trans (h : Unseen b c) (k : Unseen c d) : Unseen b d :=
  ⟨k.config.trans h.config, fun i => (k.ports i).trans (h.ports i), k.network.trans h.network,
    h.counters.trans k.counters⟩

theorem Unseen.effects (h : Unseen b c) : Effects b c := .single (.unseen h)

/-! ### What goes unseen -/

theorem unseen_reclaim (b : Bridge) : Unseen b b.reclaim.1 := by
  have hreclaim := b.housekeeping_reclaim
  refine ⟨hreclaim.config, ?_, hreclaim.network, ?_⟩
  · intro i
    rw [hreclaim.port?]
  · rw [hreclaim.counters]
    exact .refl _

theorem Unseen.retire (h : Unseen b c) (r : Release) : Unseen b (c.retire r) := by
  have hqueue : Unseen c (c.queue r) := ⟨rfl, fun _ => rfl, rfl, .refl _⟩
  exact (h.trans hqueue).trans (unseen_reclaim _)

theorem Unseen.releaseDevice (h : Unseen b c) (p : Port) :
    Unseen (b.releaseDevice p) (c.releaseDevice p) := by
  unfold Bridge.releaseDevice
  split
  · refine ⟨h.config, h.ports, ?_, h.counters⟩
    simp only [h.network]
  · exact h

theorem unseen_withLearning {s : Learning} (h : b.counters.SameFrames s.counters) :
    Unseen b (b.withLearning s) := ⟨rfl, fun _ => rfl, rfl, h⟩

theorem sameFrames_learnedAs (s : Learning) (t : Fdb) (outcome : LearnOutcome) :
    s.counters.SameFrames (s.learnedAs t outcome).counters := by
  cases outcome with
  | learned => exact s.counters.sameFrames_add rfl 1
  | moved => exact s.counters.sameFrames_add rfl 1
  | ignored | static | refreshed => exact .refl _

theorem unseen_learnSource (b : Bridge) (p : Port) (c : Classification) (src : Mac) :
    Unseen b (b.learnSource p c src) := by
  rcases learnSource_eq b p c src with he | ⟨-, he⟩
  · rw [he]
    exact .refl b
  · rw [he]
    exact unseen_withLearning (sameFrames_learnedAs b.toLearning _ _)

theorem unseen_settle {s : Learning} (h : b.counters.SameFrames s.counters) :
    Unseen b (b.settle s) := (unseen_withLearning h).trans (unseen_reclaim _)

theorem unseen_modify (b : Bridge) (i : PortIndex) {f : Port → Port}
    (hf : ∀ p, (f p).fixed = p.fixed) : Unseen b { b with ports := b.ports.modify i f } := by
  refine ⟨rfl, ?_, rfl, .refl _⟩
  intro j
  rw [PortTable.port?_modify]
  split
  · rw [Option.map_map]
    exact Option.map_congr fun p _ => hf p
  · rfl

theorem unseen_mapPorts (b : Bridge) {f : Port → Port} (hf : ∀ p, (f p).fixed = p.fixed) :
    Unseen b { b with ports := b.ports.mapPorts f } := by
  refine ⟨rfl, ?_, rfl, .refl _⟩
  intro j
  rw [PortTable.port?_mapPorts, Option.map_map]
  exact Option.map_congr fun p _ => hf p

theorem unseen_portSetPvid (b : Bridge) (n : Nat) (vid : Vid) : Unseen b (b.portSetPvid n vid).1 := by
  unfold portSetPvid
  split
  · exact .refl b
  · exact .refl b
  · exact unseen_modify b _ fun _ => rfl

theorem unseen_portSetIngress (b : Bridge) (n : Nat) (ingress : IngressDefaults) :
    Unseen b (b.portSetIngress n ingress).1 := by
  unfold portSetIngress
  split
  · exact .refl b
  · exact unseen_modify b _ fun _ => rfl

theorem unseen_withVlans (b : Bridge) (changed : Except BridgeError VlanDb) :
    Unseen b (b.withVlans changed).1 := by
  unfold withVlans
  split
  · exact ⟨rfl, fun _ => rfl, rfl, .refl _⟩
  · exact .refl b

theorem unseen_withPort (b : Bridge) (n : Nat) (change : PortIndex → Except BridgeError VlanDb) :
    Unseen b (b.withPort n change).1 := by
  unfold withPort
  split
  · exact .refl b
  · exact unseen_withVlans b _

theorem unseen_vlanDetach (b : Bridge) (vid : Vid) (n : Nat) : Unseen b (b.vlanDetach vid n).1 := by
  unfold vlanDetach
  split
  · exact .refl b
  · exact ⟨rfl, fun _ => rfl, rfl, .refl _⟩

theorem unseen_vlanDel (b : Bridge) (vid : Vid) : Unseen b (b.vlanDel vid).1 := by
  unfold vlanDel
  split
  · exact .refl b
  · rename_i vlans gone _
    have hfixed : ∀ p : Port,
        (if p.pvid = vid then { p with pvid := Vid.zero } else p).fixed = p.fixed := by
      intro p
      split
      · rfl
      · rfl
    refine Unseen.retire ?_ (.vlan gone.serial)
    exact ⟨rfl, (unseen_mapPorts b hfixed).ports, rfl, b.counters.sameFrames_add rfl _⟩

theorem unseen_fdbFlush (b : Bridge) (f : FlushFilter) : Unseen b (b.fdbFlush f).1 := by
  unfold fdbFlush
  split
  · exact .refl b
  · rename_i s gone hflush
    obtain ⟨t, -, rfl⟩ := Learning.flush_eq_ok hflush
    exact unseen_settle (b.counters.sameFrames_add rfl _)

theorem unseen_fdbAdd (b : Bridge) (key : Key) (ports : PortSet) (origin : Origin) :
    Unseen b (b.fdbAdd key ports origin).1 := by
  unfold fdbAdd
  split
  · exact .refl b
  · exact .refl b
  · split
    · exact .refl b
    · rename_i s gone hadd
      obtain ⟨t, replaced, -, rfl⟩ := Learning.addStatic_eq_ok hadd
      exact unseen_settle (.refl _)

theorem unseen_fdbDel (b : Bridge) (key : Key) : Unseen b (b.fdbDel key).1 := by
  unfold fdbDel
  split
  · exact .refl b
  · rename_i s gone hremove
    obtain ⟨t, e, -, rfl⟩ := Learning.remove_eq_ok hremove
    exact unseen_settle (.refl _)

theorem unseen_startAgeing (b : Bridge) (timer : Option Timer) :
    Unseen b (b.startAgeing timer).1 := by
  unfold startAgeing
  split
  · exact .refl b
  · split
    · exact .refl b
    · exact ⟨rfl, fun _ => rfl, rfl, .refl _⟩

theorem unseen_wake (b : Bridge) (due : Nat) : Unseen b (b.wake due) := by
  have hsweep : Unseen b (b.swept due) :=
    ⟨rfl, fun _ => rfl, rfl, b.counters.sameFrames_add rfl _⟩
  exact hsweep.trans (unseen_reclaim _)

theorem unseen_wakes (n : Nat) (b : Bridge) : Unseen b (wakes n b) := by
  induction n generalizing b with
  | zero => exact .refl b
  | succ n ih =>
    unfold wakes
    split
    · rename_i alarm _
      exact (unseen_wake b alarm.due).trans (ih _)
    · exact .refl b

theorem unseen_sleep (b : Bridge) (ms : Nat) : Unseen b (b.sleep ms) := by
  -- for every number of wakes, so that none of them is computed when the goal is compared
  have hany : ∀ n finish, Unseen b { wakes n b with clock := finish } := by
    intro n finish
    have hclock : Unseen (wakes n b) { wakes n b with clock := finish } :=
      ⟨rfl, fun _ => rfl, rfl, .refl _⟩
    exact (unseen_wakes n b).trans hclock
  unfold sleep
  exact hany _ _

/-! ### Adding and deleting ports -/

theorem portAdd_effects (hs : b.Sound guards) (id : DeviceId) (ingress : IngressDefaults) :
    Effects b (b.portAdd id ingress).1 := by
  unfold portAdd
  split
  · exact .refl
  · rename_i d hd
    split
    · exact .refl
    · rename_i ports p hadd
      obtain ⟨i, hi, he⟩ := PortTable.add_eq_ok hadd
      obtain ⟨rfl, rfl⟩ := Prod.mk.inj he
      have hfree : b.ports.port? i = none := (hs.of_firstFree? hi).1
      split
      · have hback : Unseen b
            { b with ports := (b.ports.install i d.name (.device id) ingress).1.clear i } := by
          refine ⟨rfl, ?_, rfl, .refl _⟩
          intro j
          rw [PortTable.port?_install_clear hfree]
        exact (hback.retire _).effects
      · rename_i enslaved henslave
        have hjoin : ∀ c : Bridge, Unseen c (c.joinDefaultVlan i) :=
          fun _ => ⟨rfl, fun _ => rfl, rfl, .refl _⟩
        exact (Relation.ReflTransGen.single (Effect.enslaved d.name ingress hfree hd henslave)).trans
          (hjoin _).effects

theorem unseen_flushDeletedPort (b : Bridge) (i : PortIndex) : Unseen b (b.flushDeletedPort i) := by
  unfold flushDeletedPort
  split
  · exact unseen_withLearning (b.counters.sameFrames_add rfl _)
  · exact unseen_withLearning (b.counters.sameFrames_add rfl _)

theorem portDel_effects (b : Bridge) (n : Nat) : Effects b (b.portDel n).1 := by
  unfold portDel
  split
  · exact .refl
  · rename_i ports p hremove
    obtain ⟨i, -, -, hp, rfl⟩ := PortTable.remove_eq_ok hremove
    have hvlans : Unseen ({ b with ports := b.ports.clear i } : Bridge)
        { b with ports := b.ports.clear i, vlans := (b.vlans.detachAll p.index).1 } :=
      ⟨rfl, fun _ => rfl, rfl, .refl _⟩
    have hflush := hvlans.trans (unseen_flushDeletedPort _ p.index)
    exact (Relation.ReflTransGen.single (Effect.released hp)).trans
      ((hflush.releaseDevice p).retire (.slot p.index)).effects

theorem shutdown_effects (b : Bridge) : Effects b b.shutdown := by
  have hstop : Unseen b { b with nextSweep := none } := ⟨rfl, fun _ => rfl, rfl, .refl _⟩
  have hports : ∀ (is : List PortIndex) (c : Bridge),
      Effects c (is.foldl (fun c i => (c.portDel i.val).1) c) := by
    intro is
    induction is with
    | nil => exact fun _ => .refl
    | cons i is ih => exact fun c => (portDel_effects c i.val).trans (ih _)
  exact (hstop.effects.trans (hports _ _)).trans (unseen_reclaim _).effects

/-! ### All operations -/

theorem perform_effects (hs : b.Sound guards) {op : Operation} (hop : op.IsControl) :
    Effects b (b.perform op).1 := by
  cases op with
  | portAdd device ingress => exact portAdd_effects hs device ingress
  | portDel port => exact portDel_effects b port
  | portSetPvid port vid => exact (unseen_portSetPvid b port vid).effects
  | portSetIngress port ingress => exact (unseen_portSetIngress b port ingress).effects
  | vlanAdd vid => exact (unseen_withVlans b _).effects
  | vlanDel vid => exact (unseen_vlanDel b vid).effects
  | vlanAttach vid port tagged => exact (unseen_withPort b port _).effects
  | vlanDetach vid port => exact (unseen_vlanDetach b vid port).effects
  | vlanSetLearning vid enabled => exact (unseen_withVlans b _).effects
  | vlanSetFlood vid c port enabled => exact (unseen_withPort b port _).effects
  | vlanSetRouter vid port enabled => exact (unseen_withPort b port _).effects
  | fdbFlush filter => exact (unseen_fdbFlush b filter).effects
  | fdbAdd key ports origin => exact (unseen_fdbAdd b key ports origin).effects
  | fdbDel key => exact (unseen_fdbDel b key).effects
  | learn => exact hop.elim
  | reclaim => exact (unseen_reclaim b).effects
  | quiesce => exact (unseen_reclaim b).effects
  | startAgeing timer => exact (unseen_startAgeing b timer).effects
  | sleep ms => exact (unseen_sleep b ms).effects
  | shutdown => exact shutdown_effects b

/-- Every event is made of effects, but for a frame that comes in and a change of the network. -/
theorem next_effects (hs : b.Sound guards) {e : Event} (hreceive : ∀ h f, e ≠ .receive h f)
    (hnetwork : ∀ net, e ≠ .network net) : Effects b (b.next e) := by
  cases e with
  | perform op control => exact perform_effects hs control
  | request r =>
    show Effects b (b.handle r).1
    rw [handle_fst]
    cases hop : b.operation? r with
    | none => exact .refl
    | some op => exact perform_effects hs (operation?_eq_some hop).1
  | receive h f => exact absurd rfl (hreceive h f)
  | wake now => exact (unseen_wake b now).effects
  | clock now => exact Unseen.effects ⟨rfl, fun _ => rfl, rfl, .refl _⟩
  | trap trap => exact Unseen.effects ⟨rfl, fun _ => rfl, rfl, .refl _⟩
  | network net => exact absurd rfl (hnetwork net)

theorem Effects.sameFrames (h : Effects b c) : b.counters.SameFrames c.counters := by
  induction h with
  | refl => exact .refl _
  | tail _ hstep ih =>
    refine ih.trans ?_
    cases hstep with
    | unseen h => exact h.counters
    | enslaved => exact .refl _
    | released hp =>
      unfold releaseDevice
      split
      · exact .refl _
      · exact .refl _

end Bridge

end VlanBridge
