import VlanBridge.Proofs.Surroundings
/-!
# Taking entries out of the forwarding table

Ageing and flushing take ports out of entries and remove those that are left without any. Whatever the
operation, each removed entry is counted once, under the counter of the operation, and an entry that
stays is the one it was (`Emptied`). An operation that is none of ageing, flushing, installing and
removing leaves the table alone.
-/

namespace VlanBridge

open VlanBridge.Net

namespace Counters

/-- Two sets of counters have counted the same entries. -/
def SameEntries (cs ds : Counters) : Prop := ∀ k, k.ofEntries = true → ds.get k = cs.get k

variable {cs ds es : Counters}

theorem SameEntries.refl (cs : Counters) : cs.SameEntries cs := fun _ _ => rfl

theorem SameEntries.trans (h : cs.SameEntries ds) (k : ds.SameEntries es) : cs.SameEntries es :=
  fun c hc => (k c hc).trans (h c hc)

theorem sameEntries_count (cs : Counters) {c : Counter} (hc : c.ofEntries = false) :
    cs.SameEntries (cs.count c) := by
  intro k hk
  have hne : ¬ k = c := by
    rintro rfl
    rw [hc] at hk
    cases hk
  rw [get_count, if_neg hne]

end Counters

namespace Fdb

theorem Shrunk.refl (e : Entry) : Shrunk e e := ⟨rfl, rfl, rfl, fun _ hi => hi⟩

theorem Shrunk.trans {a b c : Entry} (h : Shrunk a b) (k : Shrunk b c) : Shrunk a c :=
  ⟨k.key.trans h.key, k.origin.trans h.origin, k.lastSeen.trans h.lastSeen,
    fun i hi => h.ports i (k.ports i hi)⟩

variable {t : Fdb}

theorem length_flushPort (t : Fdb) (f : FlushFilter) (port : Option PortIndex) (now : Int) :
    (t.flushPort f port now).2.length =
      (t.entries.filter fun e => (t.flushed? f port (stamp now) e).isNone).length := by
  unfold flushPort
  simp only
  split
  · exact List.length_map ..
  · rfl

/-- Each entry stays or is among those that are removed. -/
theorem size_flushPort (t : Fdb) (f : FlushFilter) (port : Option PortIndex) (now : Int) :
    (t.flushPort f port now).1.size + (t.flushPort f port now).2.length = t.size := by
  rw [length_flushPort]
  simp only [flushPort, size]
  induction t.entries with
  | nil => rfl
  | cons e es ih =>
    cases he : t.flushed? f port (stamp now) e with
    | none =>
      rw [List.filterMap_cons_none he, List.filter_cons_of_pos (by rw [he]; rfl)]
      simp only [List.length_cons]
      omega
    | some d =>
      rw [List.filterMap_cons_some he, List.filter_cons_of_neg (by rw [he]; exact Bool.false_ne_true)]
      simp only [List.length_cons]
      omega

/-- A flush either works on a port that is a slot, or on none, or finds nothing to do. -/
theorem flush_eq_ok {f : FlushFilter} {now : Int} {u : Fdb} {gone : List Entry}
    (h : t.flush f now = .ok (u, gone)) :
    (u, gone) = (t, []) ∨ ∃ port, (u, gone) = t.flushPort f port now := by
  unfold flush at h
  split at h
  · exact Or.inr ⟨none, (Except.ok.inj h).symm⟩
  · split at h
    · exact Or.inr ⟨_, (Except.ok.inj h).symm⟩
    · split at h
      · cases h
      · exact Or.inl (Except.ok.inj h).symm

end Fdb

namespace Bridge

variable {b c d : Bridge} {k : Counter}

/-- Neither the table nor the counters of its entries change. -/
structure Resting (b c : Bridge) : Prop where
  fdb : c.fdb = b.fdb
  counters : b.counters.SameEntries c.counters

/-- Entries are taken out, and each one that is removed is counted under one counter. -/
structure Emptied (k : Counter) (b c : Bridge) : Prop where
  entries : ∀ e ∈ c.fdb.entries, ∃ d ∈ b.fdb.entries, Fdb.Shrunk d e
  size : c.fdb.size ≤ b.fdb.size
  counters : ∀ j, j.ofEntries = true → c.counters.get j =
    b.counters.get j + UInt64.ofNat (if j = k then b.fdb.size - c.fdb.size else 0)

theorem Resting.refl (b : Bridge) : Resting b b := ⟨rfl, .refl _⟩

theorem Resting.trans (h : Resting b c) (k : Resting c d) : Resting b d :=
  ⟨k.fdb.trans h.fdb, h.counters.trans k.counters⟩

theorem Resting.emptied (h : Resting b c) (k : Counter) : Emptied k b c := by
  refine ⟨?_, ?_, ?_⟩
  · intro e he
    rw [h.fdb] at he
    exact ⟨e, he, .refl e⟩
  · exact Nat.le_of_eq (congrArg Fdb.size h.fdb)
  · intro j hj
    rw [h.counters j hj, h.fdb, Nat.sub_self, ite_self]
    exact (UInt64.add_zero _).symm

theorem Emptied.refl (k : Counter) (b : Bridge) : Emptied k b b := (Resting.refl b).emptied k

theorem Emptied.trans (h : Emptied k b c) (h' : Emptied k c d) : Emptied k b d := by
  refine ⟨?_, Nat.le_trans h'.size h.size, ?_⟩
  · intro e he
    obtain ⟨e', he', hs'⟩ := h'.entries e he
    obtain ⟨e'', he'', hs⟩ := h.entries e' he'
    exact ⟨e'', he'', hs.trans hs'⟩
  · intro j hj
    have hsum : (if j = k then b.fdb.size - d.fdb.size else 0) =
        (if j = k then b.fdb.size - c.fdb.size else 0)
          + if j = k then c.fdb.size - d.fdb.size else 0 := by
      have h₁ := h.size
      have h₂ := h'.size
      split <;> omega
    rw [h'.counters j hj, h.counters j hj, hsum, UInt64.ofNat_add, UInt64.add_assoc]

theorem Emptied.rest (h : Emptied k b c) (h' : Resting c d) : Emptied k b d :=
  h.trans (h'.emptied k)

theorem emptied_flushPort {f : FlushFilter} {port : Option PortIndex} {now : Int} {gone : List Entry}
    (h : b.fdb.flushPort f port now = (c.fdb, gone))
    (hcounters : c.counters = b.counters.add k (UInt64.ofNat gone.length)) : Emptied k b c := by
  have hsize := b.fdb.size_flushPort f port now
  have htable : (b.fdb.flushPort f port now).1 = c.fdb := congrArg Prod.fst h
  simp only [h] at hsize
  refine ⟨?_, by omega, ?_⟩
  · intro e he
    rw [← htable] at he
    exact Fdb.shrunk_of_mem_flushPort he
  · intro j _
    rw [hcounters, Counters.get_add]
    split
    · rw [show b.fdb.size - c.fdb.size = gone.length by omega]
    · exact (UInt64.add_zero _).symm

/-- Two flushes in turn may be counted at once. What the first removes the second does not find again. -/
theorem emptied_flushPort_twice {f g : FlushFilter} {port : Option PortIndex} {now : Int} {t : Fdb}
    {gone more : List Entry} (h : b.fdb.flushPort f port now = (t, gone))
    (h' : t.flushPort g port now = (c.fdb, more))
    (hcounters : c.counters = b.counters.add k (UInt64.ofNat (gone.length + more.length))) :
    Emptied k b c := by
  let between := b.withLearning
    { b.toLearning with fdb := t, counters := b.counters.add k (UInt64.ofNat gone.length) }
  let counters := between.counters.add k (UInt64.ofNat more.length)
  have hfirst : Emptied k b between := emptied_flushPort (f := f) h rfl
  have hsecond : Emptied k between { c with counters } := emptied_flushPort (f := g) h' rfl
  refine (hfirst.trans hsecond).rest ⟨rfl, fun j _ => ?_⟩
  simp only [counters, between, withLearning, hcounters, Counters.get_add, UInt64.ofNat_add]
  split
  · exact (UInt64.add_assoc ..).symm
  · rfl

/-! ### What leaves the table alone -/

theorem resting_reclaim (b : Bridge) : Resting b b.reclaim.1 := by
  have hreclaim := b.housekeeping_reclaim
  refine ⟨hreclaim.fdb, ?_⟩
  rw [hreclaim.counters]
  exact .refl _

theorem resting_retire (b : Bridge) (r : Release) : Resting b (b.retire r) := by
  have hqueue : Resting b (b.queue r) := ⟨rfl, .refl _⟩
  exact hqueue.trans (resting_reclaim _)

theorem resting_releaseDevice (b : Bridge) (p : Port) : Resting b (b.releaseDevice p) := by
  unfold releaseDevice
  split
  · exact ⟨rfl, .refl _⟩
  · exact .refl b

theorem resting_portAdd (b : Bridge) (id : DeviceId) (ingress : IngressDefaults) :
    Resting b (b.portAdd id ingress).1 := by
  unfold portAdd
  split
  · exact .refl b
  · split
    · exact .refl b
    · rename_i ports p _
      split
      · have hback : Resting b { b with ports := ports.clear p.index } := ⟨rfl, .refl _⟩
        exact hback.trans (resting_retire _ _)
      · exact ⟨rfl, .refl _⟩

theorem resting_portSetPvid (b : Bridge) (n : Nat) (vid : Vid) :
    Resting b (b.portSetPvid n vid).1 := by
  unfold portSetPvid
  split
  · exact .refl b
  · exact .refl b
  · exact ⟨rfl, .refl _⟩

theorem resting_portSetIngress (b : Bridge) (n : Nat) (ingress : IngressDefaults) :
    Resting b (b.portSetIngress n ingress).1 := by
  unfold portSetIngress
  split
  · exact .refl b
  · exact ⟨rfl, .refl _⟩

theorem resting_withVlans (b : Bridge) (changed : Except BridgeError VlanDb) :
    Resting b (b.withVlans changed).1 := by
  unfold withVlans
  split
  · exact ⟨rfl, .refl _⟩
  · exact .refl b

theorem resting_withPort (b : Bridge) (n : Nat) (change : PortIndex → Except BridgeError VlanDb) :
    Resting b (b.withPort n change).1 := by
  unfold withPort
  split
  · exact .refl b
  · exact resting_withVlans b _

theorem resting_vlanDetach (b : Bridge) (vid : Vid) (n : Nat) :
    Resting b (b.vlanDetach vid n).1 := by
  unfold vlanDetach
  split
  · exact .refl b
  · exact ⟨rfl, .refl _⟩

theorem resting_startAgeing (b : Bridge) (timer : Option Timer) :
    Resting b (b.startAgeing timer).1 := by
  unfold startAgeing
  split
  · exact .refl b
  · split
    · exact .refl b
    · exact ⟨rfl, .refl _⟩

/-! ### Ageing -/

theorem emptied_wake (b : Bridge) (due : Nat) : Emptied .aged b (b.wake due) := by
  have hsweep : Emptied .aged b (b.swept due) := emptied_flushPort (f := FlushFilter.aged) rfl rfl
  exact hsweep.rest (resting_reclaim _)

theorem emptied_wakes (n : Nat) (b : Bridge) : Emptied .aged b (wakes n b) := by
  induction n generalizing b with
  | zero => exact .refl _ b
  | succ n ih =>
    unfold wakes
    split
    · rename_i alarm _
      exact (emptied_wake b alarm.due).trans (ih _)
    · exact .refl _ b

theorem emptied_sleep (b : Bridge) (ms : Nat) : Emptied .aged b (b.sleep ms) := by
  -- for every number of wakes, so that none of them is computed when the goal is compared
  have hany : ∀ n finish, Emptied .aged b { wakes n b with clock := finish } := by
    intro n finish
    have hclock : Resting (wakes n b) { wakes n b with clock := finish } := ⟨rfl, .refl _⟩
    exact (emptied_wakes n b).rest hclock
  unfold sleep
  exact hany _ _

/-! ### Flushing -/

theorem emptied_flushDeletedPort (b : Bridge) (i : PortIndex) :
    Emptied .flushed b (b.flushDeletedPort i) := by
  unfold flushDeletedPort
  split
  · exact emptied_flushPort (f := FlushFilter.onPort i.val) rfl rfl
  · exact emptied_flushPort_twice (f := { origin := some .external }) (g := { origin := some .user })
      rfl rfl rfl

theorem emptied_portDel (b : Bridge) (n : Nat) : Emptied .flushed b (b.portDel n).1 := by
  unfold portDel
  split
  · exact .refl _ b
  · rename_i ports p _
    have hcleared : Resting b { b with ports, vlans := (b.vlans.detachAll p.index).1 } :=
      ⟨rfl, .refl _⟩
    have hflush := (hcleared.emptied .flushed).trans (emptied_flushDeletedPort _ p.index)
    exact (hflush.rest (resting_releaseDevice _ p)).rest (resting_retire _ _)

theorem emptied_vlanDel (b : Bridge) (vid : Vid) : Emptied .flushed b (b.vlanDel vid).1 := by
  unfold vlanDel
  split
  · exact .refl _ b
  · rename_i vlans gone _
    refine Emptied.rest ?_ (resting_retire _ (.vlan gone.serial))
    exact emptied_flushPort (f := { vid := some vid }) rfl rfl

theorem emptied_fdbFlush (b : Bridge) (f : FlushFilter) : Emptied .flushed b (b.fdbFlush f).1 := by
  unfold fdbFlush
  split
  · exact .refl _ b
  · rename_i s gone hflush
    obtain ⟨t, htable, rfl⟩ := Learning.flush_eq_ok hflush
    refine Emptied.rest ?_ (resting_reclaim _)
    rcases Fdb.flush_eq_ok htable with he | ⟨port, he⟩
    · obtain ⟨rfl, rfl⟩ := Prod.mk.inj he
      have hnone : Resting b (b.withLearning (b.toLearning.tally .flushed 0)) := by
        refine ⟨rfl, fun j _ => ?_⟩
        simp only [withLearning, Learning.tally, Counters.get_add]
        split
        · exact UInt64.add_zero _
        · rfl
      exact hnone.emptied .flushed
    · exact emptied_flushPort (f := f) he.symm rfl

theorem emptied_shutdown (b : Bridge) : Emptied .flushed b b.shutdown := by
  have hstop : Resting b { b with nextSweep := none } := ⟨rfl, .refl _⟩
  have hports : ∀ (is : List PortIndex) (c : Bridge),
      Emptied .flushed c (is.foldl (fun c i => (c.portDel i.val).1) c) := by
    intro is
    induction is with
    | nil => exact fun c => .refl _ c
    | cons i is ih => exact fun c => (emptied_portDel c i.val).trans (ih _)
  exact ((hstop.emptied .flushed).trans (hports _ _)).rest (resting_reclaim _)

/-! ### All operations but two -/

end Bridge

/-- The counter of the entries that an operation takes out, if it takes out any. -/
def Operation.remover? : Operation → Option Counter
  | .portDel _ | .vlanDel _ | .fdbFlush _ | .shutdown => some .flushed
  | .sleep _ => some .aged
  | _ => none

/-- An operation that installs or removes a single entry. -/
def Operation.IsSingle : Operation → Prop
  | .fdbAdd .. | .fdbDel _ => True
  | _ => False

namespace Bridge

variable {b : Bridge} {k : Counter}

theorem perform_resting {op : Operation} (hop : op.IsControl) (hmany : ¬ op.IsSingle)
    (hnone : op.remover? = none) : Resting b (b.perform op).1 := by
  cases op with
  | portAdd device ingress => exact resting_portAdd b device ingress
  | portSetPvid port vid => exact resting_portSetPvid b port vid
  | portSetIngress port ingress => exact resting_portSetIngress b port ingress
  | vlanAdd vid => exact resting_withVlans b _
  | vlanAttach vid port tagged => exact resting_withPort b port _
  | vlanDetach vid port => exact resting_vlanDetach b vid port
  | vlanSetLearning vid enabled => exact resting_withVlans b _
  | vlanSetFlood vid c port enabled => exact resting_withPort b port _
  | vlanSetRouter vid port enabled => exact resting_withPort b port _
  | fdbAdd | fdbDel => exact absurd trivial hmany
  | learn => exact hop.elim
  | reclaim => exact resting_reclaim b
  | quiesce => exact resting_reclaim b
  | startAgeing timer => exact resting_startAgeing b timer
  | portDel | vlanDel | fdbFlush | sleep | shutdown => cases hnone

theorem perform_emptied {op : Operation} (hk : op.remover? = some k) :
    Emptied k b (b.perform op).1 := by
  cases op with
  | portDel port =>
    cases hk
    exact emptied_portDel b port
  | vlanDel vid =>
    cases hk
    exact emptied_vlanDel b vid
  | fdbFlush filter =>
    cases hk
    exact emptied_fdbFlush b filter
  | sleep ms =>
    cases hk
    exact emptied_sleep b ms
  | shutdown =>
    cases hk
    exact emptied_shutdown b
  | portAdd | portSetPvid | portSetIngress | vlanAdd | vlanAttach | vlanDetach | vlanSetLearning
    | vlanSetFlood | vlanSetRouter | fdbAdd | fdbDel | learn | reclaim | quiesce | startAgeing =>
    cases hk

end Bridge

end VlanBridge
