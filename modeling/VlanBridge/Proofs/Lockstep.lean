import VlanBridge.Proofs.Twins
/-!
# Operations on twins

Whatever operation is done to both, twins stay twins. Nothing that decides what an operation does to the
ports or the VLANs is read from the forwarding table, the counters or the frames that devices have sent.
-/

namespace VlanBridge

open VlanBridge.Net

/-- Whether a device may become a port depends on how it is set up alone. -/
theorem PortTable.add_setup {d e : Device} (h : e.setup = d.setup) (t : PortTable) (id : DeviceId)
    (ingress : IngressDefaults) (bridgeName : String) :
    t.add e id ingress bridgeName = t.add d id ingress bridgeName := by
  have hname : e.name = d.name := congrArg (·.name) h
  have hkind : e.kind = d.kind := congrArg (·.kind) h
  have hmac : e.mac = d.mac := congrArg (·.mac) h
  have hmaster : e.master = d.master := congrArg (·.master) h
  have hallowed : e.bridgingAllowed = d.bridgingAllowed := congrArg (·.bridgingAllowed) h
  unfold add Device.checkEligible Device.hasMaster
  rw [hname, hkind, hmac, hmaster, hallowed]

namespace Bridge

variable {v : Vid} {b c : Bridge}

/-! ### Operations on entries -/

theorem Twins.fdbFlush (h : Twins v b c) (f : FlushFilter) :
    Twins v (b.fdbFlush f).1 (c.fdbFlush f).1 := by
  have hc := took_fdbFlush h.idle' h.quiet' f
  rw [h.alike.clock] at hc
  exact h.took (took_fdbFlush h.idle h.quiet f) hc (h.alike.fdb.afterFlush f _)
    (Fdb.sorted_afterFlush h.sorted f _) (Fdb.sorted_afterFlush h.sorted' f _)

theorem Twins.fdbDel (h : Twins v b c) (key : Key) : Twins v (b.fdbDel key).1 (c.fdbDel key).1 :=
  h.took (took_fdbDel h.idle h.quiet key) (took_fdbDel h.idle' h.quiet' key)
    (h.alike.fdb.afterRemoving key) (Fdb.sorted_afterRemoving h.sorted key)
    (Fdb.sorted_afterRemoving h.sorted' key)

theorem Twins.fdbAdd (h : Twins v b c) (key : Key) (ports : PortSet) (origin : Origin) :
    Twins v (b.fdbAdd key ports origin).1 (c.fdbAdd key ports origin).1 := by
  have hvlan : c.vlans.require key.vid = b.vlans.require key.vid := by rw [h.alike.vlans]
  have hmissing : c.missingPort? ports = b.missingPort? ports := by
    unfold missingPort?
    rw [h.alike.ports]
  cases hv : b.vlans.require key.vid with
  | error e =>
    unfold Bridge.fdbAdd
    rw [hvlan, hv]
    exact h
  | ok w =>
    cases hp : b.missingPort? ports with
    | some i =>
      unfold Bridge.fdbAdd
      rw [hvlan, hv, hmissing, hp]
      exact h
    | none =>
      have hc := took_fdbAdd h.idle' h.quiet' (hvlan.trans hv) (hmissing.trans hp) origin
      rw [h.alike.clock] at hc
      exact h.took (took_fdbAdd h.idle h.quiet hv hp origin) hc
        (h.alike.fdb.afterAdding h.sorted h.sorted' key ports origin _)
        (Fdb.sorted_afterAdding h.sorted key ports origin _)
        (Fdb.sorted_afterAdding h.sorted' key ports origin _)

/-! ### Operations on ports -/

theorem Twins.tables (h : Twins v b c) (ports : PortTable) (vlans : VlanDb) :
    Twins v { b with ports, vlans } { c with ports, vlans } :=
  ⟨h.toNear.tables ports vlans, h.quiet⟩

theorem Twins.network (h : Twins v b c) {net other : Network} (hn : net.Alike other) :
    Twins v { b with network := net } { c with network := other } :=
  ⟨h.toNear.network hn, h.quiet⟩

theorem Twins.portAdd (h : Twins v b c) (id : DeviceId) (ingress : IngressDefaults) :
    Twins v (b.portAdd id ingress).1 (c.portAdd id ingress).1 := by
  cases h.alike with
  | @mk t cs r net he hd hn =>
    unfold Bridge.portAdd
    rcases hn.device? id with ⟨hnone, hnone'⟩ | ⟨d, d', hdev, hdev', hs⟩
    · simp only [hnone, hnone']
      exact h
    · simp only [hdev, hdev', PortTable.add_setup hs]
      cases b.ports.add d id ingress b.config.name with
      | error e => exact h
      | ok added =>
        obtain ⟨ports, p⟩ := added
        rcases Device.setup_enslave hs b.config.name with ⟨e, hf, hf'⟩ | ⟨m, m', hm, hm', hms⟩
        · simp only [hf, hf']
          exact (h.toNear.tables (ports.clear p.index) b.vlans).retire (.slot p.index)
        · simp only [hm, hm']
          exact (h.tables (ports.activate p.index)
            (b.vlans.modify Vid.zero (·.attach p.index false))).network
            (hn.modifyDevice fun _ _ _ _ _ => hms)

theorem Near.flushDeletedPort (h : Near v b c) (i : PortIndex) :
    Near v (b.flushDeletedPort i) (c.flushDeletedPort i) := by
  cases h.alike with
  | @mk t cs r net he hd hn =>
    unfold Bridge.flushDeletedPort
    by_cases hall : b.config.flushOnPortDel = true
    · simp only [hall, if_true]
      exact (h.flushPort (FlushFilter.onPort i.val) (some i) b.clock).counters _ _
    · simp only [hall, if_false, Bool.false_eq_true]
      exact ((h.flushPort { origin := some .external } (some i) b.clock).flushPort
        { origin := some .user } (some i) b.clock).counters _ _

theorem Near.releaseDevice (h : Near v b c) (p : Port) :
    Near v (b.releaseDevice p) (c.releaseDevice p) := by
  cases h.alike with
  | @mk t cs r net he hd hn =>
    unfold Bridge.releaseDevice
    cases p.device? with
    | none => exact h
    | some id =>
      exact h.network (hn.modifyDevice fun _ _ _ _ hs => Device.setup_release hs)

theorem Twins.portDel (h : Twins v b c) (n : Nat) :
    Twins v (b.portDel n).1 (c.portDel n).1 := by
  cases h.alike with
  | @mk t cs r net he hd hn =>
    unfold Bridge.portDel
    cases b.ports.remove n with
    | error e => exact h
    | ok removed =>
      obtain ⟨ports, p⟩ := removed
      have htables := h.toNear.tables ports (b.vlans.detachAll p.index).1
      exact ((htables.flushDeletedPort p.index).releaseDevice p).retire (.slot p.index)

theorem indifferent_portSetPvid (n : Nat) (vid : Vid) :
    Indifferent fun b => (b.portSetPvid n vid).1 := by
  intro b t cs r net
  simp only [portSetPvid]
  cases b.ports.require n with
  | error e => rfl
  | ok p => cases b.vlans.require vid <;> rfl

theorem indifferent_portSetIngress (n : Nat) (ingress : IngressDefaults) :
    Indifferent fun b => (b.portSetIngress n ingress).1 := by
  intro b t cs r net
  simp only [portSetIngress]
  cases b.ports.require n <;> rfl

/-! ### Operations on VLANs -/

theorem indifferent_withVlans (change : VlanDb → BridgeConfig → Except BridgeError VlanDb) :
    Indifferent fun b => (b.withVlans (change b.vlans b.config)).1 := by
  intro b t cs r net
  simp only [withVlans]
  cases change b.vlans b.config <;> rfl

theorem indifferent_withPort (n : Nat) (change : VlanDb → PortIndex → Except BridgeError VlanDb) :
    Indifferent fun b => (b.withPort n (change b.vlans)).1 := by
  intro b t cs r net
  simp only [withPort]
  cases b.ports.require n with
  | error e => rfl
  | ok p => exact indifferent_withVlans (fun db _ => change db p.index) b t cs r net

theorem indifferent_vlanDetach (vid : Vid) (n : Nat) :
    Indifferent fun b => (b.vlanDetach vid n).1 := by
  intro b t cs r net
  simp only [vlanDetach]
  cases b.ports.require n <;> rfl

theorem Twins.vlanDel (h : Twins v b c) (vid : Vid) : Twins v (b.vlanDel vid).1 (c.vlanDel vid).1 := by
  cases h.alike with
  | @mk t cs r net he hd hn =>
    unfold Bridge.vlanDel
    cases b.vlans.delete vid with
    | error e => exact h
    | ok deleted =>
      obtain ⟨vlans, gone⟩ := deleted
      have hflush := h.flushPort { vid := some vid } none b.clock
      exact ((hflush.counters _ _).tables (b.ports.mapPorts fun p =>
        if p.pvid = vid then { p with pvid := Vid.zero } else p) vlans).retire (.vlan gone.serial)

/-! ### Time -/

theorem indifferent_clock (now : Nat) : Indifferent fun b => { b with clock := now } :=
  fun _ _ _ _ _ => rfl

theorem indifferent_nextSweep (next : Option Alarm) :
    Indifferent fun b => { b with nextSweep := next } := fun _ _ _ _ _ => rfl

theorem Twins.startAgeing (h : Twins v b c) (timer : Option Timer) :
    Twins v (b.startAgeing timer).1 (c.startAgeing timer).1 := by
  unfold Bridge.startAgeing
  rw [h.alike.nextSweep, h.alike.clock, h.alike.sweepPeriod]
  cases timer with
  | none => exact h
  | some timer =>
    cases b.nextSweep with
    | some alarm => exact h
    | none => exact h.map (indifferent_nextSweep _)

theorem Twins.wake (h : Twins v b c) (due : Nat) : Twins v (b.wake due) (c.wake due) := by
  have hflush := (h.toNear.map (indifferent_clock due)).flushPort FlushFilter.aged none due
  have hswept := hflush.counters
    (({ b.toLearning with clock := due } : Learning).sweep due).1.counters
    (({ c.toLearning with clock := due } : Learning).sweep due).1.counters
  unfold Bridge.wake Bridge.swept
  rw [h.alike.nextSweep, h.alike.sweepPeriod]
  exact (hswept.map (indifferent_nextSweep _)).reclaim

theorem Twins.wakes (h : Twins v b c) (n : Nat) : Twins v (wakes n b) (wakes n c) := by
  induction n generalizing b c with
  | zero => exact h
  | succ n ih =>
    unfold Bridge.wakes
    rw [h.alike.nextSweep]
    cases b.nextSweep with
    | none => exact h
    | some alarm => exact ih (h.wake alarm.due)

theorem Twins.sleep (h : Twins v b c) (ms : Nat) : Twins v (b.sleep ms) (c.sleep ms) := by
  -- for every number of wakes, so that none of them is computed when the goal is compared
  have hany : ∀ n finish, Twins v { Bridge.wakes n b with clock := finish }
      { Bridge.wakes n c with clock := finish } := by
    intro n finish
    exact (h.wakes n).map (indifferent_clock finish)
  have huntil : c.wakesUntil = b.wakesUntil := by
    funext finish
    unfold wakesUntil
    rw [h.alike.nextSweep, h.alike.sweepPeriod]
  unfold Bridge.sleep
  rw [h.alike.clock, huntil]
  exact hany _ _

theorem Twins.foldl_portDel (h : Twins v b c) (is : List PortIndex) :
    Twins v (is.foldl (fun b i => (b.portDel i.val).1) b)
      (is.foldl (fun b i => (b.portDel i.val).1) c) := by
  induction is generalizing b c with
  | nil => exact h
  | cons i is ih => exact ih (h.portDel i.val)

theorem Twins.shutdown (h : Twins v b c) : Twins v b.shutdown c.shutdown := by
  have hall := h.map (indifferent_nextSweep none)
  cases h.alike with
  | @mk t cs r net he hd hn => exact (hall.foldl_portDel _).reclaim

/-! ### All operations -/

theorem Twins.perform (h : Twins v b c) {op : Operation} (hop : op.IsControl) :
    Twins v (b.perform op).1 (c.perform op).1 := by
  cases op with
  | portAdd device ingress => exact h.portAdd device ingress
  | portDel port => exact h.portDel port
  | portSetPvid port vid => exact h.map (indifferent_portSetPvid port vid)
  | portSetIngress port ingress => exact h.map (indifferent_portSetIngress port ingress)
  | vlanAdd vid =>
    exact h.map (indifferent_withVlans fun db config => db.create vid config.defaultLearning)
  | vlanDel vid => exact h.vlanDel vid
  | vlanAttach vid port tagged =>
    exact h.map (indifferent_withPort port fun db i => db.attach vid i tagged)
  | vlanDetach vid port => exact h.map (indifferent_vlanDetach vid port)
  | vlanSetLearning vid enabled =>
    exact h.map (indifferent_withVlans fun db _ => db.setLearning vid enabled)
  | vlanSetFlood vid class' port enabled =>
    exact h.map (indifferent_withPort port fun db i => db.setFlood vid class' i enabled)
  | vlanSetRouter vid port enabled =>
    exact h.map (indifferent_withPort port fun db i => db.setRouter vid i enabled)
  | fdbFlush filter => exact h.fdbFlush filter
  | fdbAdd key ports origin => exact h.fdbAdd key ports origin
  | fdbDel key => exact h.fdbDel key
  | learn => exact hop.elim
  | reclaim => exact h.reclaim
  | quiesce => exact h.reclaim
  | startAgeing timer => exact h.startAgeing timer
  | sleep ms => exact h.sleep ms
  | shutdown => exact h.shutdown

theorem Alike.operation? (h : Alike v b c) (r : Request) : c.operation? r = b.operation? r := by
  have hport : ∀ name, c.portIndex name = b.portIndex name := by
    intro name
    unfold portIndex
    rw [h.config, h.ports]
  have hports : ∀ names, c.portIndices names = b.portIndices names := by
    intro names
    induction names with
    | nil => rfl
    | cons name names ih =>
      unfold portIndices
      rw [hport, ih]
  have hnamed : ∀ name op, c.named name op = b.named name op := by
    intro name op
    unfold named
    rw [hport]
  have hlookup : ∀ name, c.network.lookup name = b.network.lookup name := by
    intro name
    cases h with
    | mk he hd hn => exact hn.lookup name
  cases r with
  | portAdd device defaults => simp only [Bridge.operation?, hlookup]
  | fdbFlush port vid origin agedOnly =>
    cases port <;> simp only [Bridge.operation?, hnamed]
  | fdbAdd key ports origin => simp only [Bridge.operation?, hports]
  | portDel | portSetPvid | portSetIngress | vlanAttach | vlanDetach | vlanSetFlood
  | vlanSetRouter => simp only [Bridge.operation?, hnamed]
  | vlanAdd | vlanDel | vlanSetLearning | fdbDel | portList | vlanList | fdbDump | counters => rfl

theorem Twins.handle (h : Twins v b c) (r : Request) :
    Twins v (b.handle r).1 (c.handle r).1 := by
  rw [handle_fst, handle_fst, h.alike.operation? r]
  cases hop : b.operation? r with
  | none => exact h
  | some op => exact h.perform (operation?_eq_some hop).1

end Bridge

end VlanBridge
