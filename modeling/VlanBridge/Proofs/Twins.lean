import VlanBridge.Proofs.Bookkeeping
import VlanBridge.Proofs.OtherVlans
/-!
# Bridges that differ in one VLAN

Two bridges are `Twins` with respect to a VLAN if they differ at most in the entries of that VLAN, in
their counters, in the frames that their devices have sent, and in how far their releases have come.
Whatever is done to both leaves them twins, though its answer may not be the same: a flush may find
more entries in one of them, an entry of that VLAN may be there to be deleted in one only. Such an
answer makes no difference because nothing but the releases of entries waits between two events, so
that a reclaim in one of the two alone goes unnoticed.
-/

namespace VlanBridge

open VlanBridge.Net

namespace Release

/-- The releases that have something to do. -/
def duties (rs : List Release) : List Release := rs.filter (· ≠ .entries)

theorem duties_append (rs ss : List Release) : duties (rs ++ ss) = duties rs ++ duties ss :=
  List.filter_append ..

theorem allOnPorts_duties (rs : List Release) (t : PortTable) :
    allOnPorts (duties rs) t = allOnPorts rs t := by
  induction rs generalizing t with
  | nil => rfl
  | cons r rs ih =>
    cases r with
    | entries => exact ih t
    | vlan serial => exact ih t
    | slot i => exact ih (t.free i)

theorem allOnVlans_duties (rs : List Release) (db : VlanDb) :
    allOnVlans (duties rs) db = allOnVlans rs db := by
  induction rs generalizing db with
  | nil => rfl
  | cons r rs ih =>
    cases r with
    | entries => exact ih db
    | vlan serial => exact ih (db.discard serial)
    | slot i => exact ih db

end Release

namespace Bridge

/-- Two bridges differ at most in the entries of one VLAN and in what nobody but that VLAN notices. -/
inductive Alike (v : Vid) (b : Bridge) : Bridge → Prop where
  | mk {t : Fdb} {cs : Counters} {r : Reclaimer Release} {net : Network}
      (entries : b.fdb.Alike v t)
      (duties : Release.duties (r.queue.map (·.release)) = Release.duties b.waiting)
      (network : b.network.Alike net) :
      Alike v b { b with fdb := t, counters := cs, reclaimer := r, network := net }

variable {v : Vid} {b c b' c' : Bridge}

theorem Alike.refl (v : Vid) (b : Bridge) : Alike v b b := .mk (.refl v _) rfl (.refl _)

theorem Alike.fdb (h : Alike v b c) : b.fdb.Alike v c.fdb := by
  cases h with
  | mk he hd hn => exact he

theorem Alike.waiting (h : Alike v b c) :
    Release.duties c.waiting = Release.duties b.waiting := by
  cases h with
  | mk he hd hn => exact hd

theorem Alike.ports (h : Alike v b c) : c.ports = b.ports := by cases h; rfl

theorem Alike.vlans (h : Alike v b c) : c.vlans = b.vlans := by cases h; rfl

theorem Alike.config (h : Alike v b c) : c.config = b.config := by cases h; rfl

theorem Alike.clock (h : Alike v b c) : c.clock = b.clock := by cases h; rfl

theorem Alike.nextSweep (h : Alike v b c) : c.nextSweep = b.nextSweep := by cases h; rfl

theorem Alike.sweepPeriod (h : Alike v b c) : c.sweepPeriod = b.sweepPeriod := by
  unfold Bridge.sweepPeriod
  rw [h.fdb.ageing]

/-- Two such bridges while something is done to both. -/
structure Near (v : Vid) (b c : Bridge) : Prop where
  alike : Alike v b c
  idle : b.reclaimer.Tracks []
  idle' : c.reclaimer.Tracks []
  sorted : b.fdb.Sorted
  sorted' : c.fdb.Sorted

/-- Two such bridges between two events. -/
structure Twins (v : Vid) (b c : Bridge) : Prop extends Near v b c where
  quiet : Release.duties b.waiting = []

/-! ### Changes made to both -/

/-- The change is the same whatever stands in the forwarding table, in the counters, among the releases
and in the network, and it leaves them alone. -/
def Indifferent (f : Bridge → Bridge) : Prop :=
  ∀ (b : Bridge) (t : Fdb) (cs : Counters) (r : Reclaimer Release) (net : Network),
    f { b with fdb := t, counters := cs, reclaimer := r, network := net } =
      { f b with fdb := t, counters := cs, reclaimer := r, network := net }

theorem Near.map (h : Near v b c) {f : Bridge → Bridge} (hf : Indifferent f) :
    Near v (f b) (f c) := by
  have hsame := hf b b.fdb b.counters b.reclaimer b.network
  have hfdb : (f b).fdb = b.fdb := congrArg (·.fdb) hsame
  have hrest : (f b).reclaimer = b.reclaimer := congrArg (·.reclaimer) hsame
  have hnet : (f b).network = b.network := congrArg (·.network) hsame
  have hidle := h.idle
  have hidle' := h.idle'
  have hsorted := h.sorted
  have hsorted' := h.sorted'
  cases h.alike with
  | @mk t cs r net he hd hn =>
    rw [← hfdb] at he hsorted
    rw [← hrest] at hidle
    rw [waiting, ← hrest] at hd
    rw [← hnet] at hn
    rw [hf b t cs r net]
    exact ⟨.mk he hd hn, hidle, hidle', hsorted, hsorted'⟩

theorem Twins.map (h : Twins v b c) {f : Bridge → Bridge} (hf : Indifferent f) :
    Twins v (f b) (f c) := by
  have hrest : (f b).reclaimer = b.reclaimer :=
    congrArg (·.reclaimer) (hf b b.fdb b.counters b.reclaimer b.network)
  refine ⟨h.toNear.map hf, ?_⟩
  rw [waiting, hrest]
  exact h.quiet

theorem Near.tables (h : Near v b c) (ports : PortTable) (vlans : VlanDb) :
    Near v { b with ports, vlans } { c with ports, vlans } :=
  h.map (f := fun b => { b with ports, vlans }) fun _ _ _ _ _ => rfl

theorem Near.counters (h : Near v b c) (cs ds : Counters) :
    Near v { b with counters := cs } { c with counters := ds } := by
  cases h.alike with
  | mk he hd hn => exact ⟨.mk he hd hn, h.idle, h.idle', h.sorted, h.sorted'⟩

theorem Near.network (h : Near v b c) {net other : Network} (hn : net.Alike other) :
    Near v { b with network := net } { c with network := other } := by
  cases h.alike with
  | mk he hd _ => exact ⟨.mk he hd hn, h.idle, h.idle', h.sorted, h.sorted'⟩

theorem Near.queue (h : Near v b c) (r : Release) : Near v (b.queue r) (c.queue r) := by
  cases h.alike with
  | mk he hd hn =>
    refine ⟨.mk he ?_ hn, h.idle.retire r, h.idle'.retire r, h.sorted, h.sorted'⟩
    simp only [Reclaimer.retire, waiting_queue, List.map_append, Release.duties_append, hd]
    rfl

theorem Near.reclaim (h : Near v b c) : Twins v b.reclaim.1 c.reclaim.1 := by
  have hnone := waiting_reclaim h.idle
  have hnone' := waiting_reclaim h.idle'
  have hidle := tracks_reclaim h.idle
  have hidle' := tracks_reclaim h.idle'
  rw [reclaim_eq h.idle] at hnone hidle ⊢
  rw [reclaim_eq h.idle'] at hnone' hidle' ⊢
  cases h.alike with
  | @mk t cs r net he hd hn =>
    -- what runs in the two differs in releases of entries, which do nothing
    have hports : Release.allOnPorts (r.queue.map (·.release)) b.ports =
        Release.allOnPorts b.waiting b.ports := by
      rw [← Release.allOnPorts_duties, hd, Release.allOnPorts_duties]
    have hvlans : Release.allOnVlans (r.queue.map (·.release)) b.vlans =
        Release.allOnVlans b.waiting b.vlans := by
      rw [← Release.allOnVlans_duties, hd, Release.allOnVlans_duties]
    have hquiet := (congrArg Release.duties hnone').trans (congrArg Release.duties hnone).symm
    refine ⟨⟨?_, hidle, hidle', h.sorted, h.sorted'⟩, congrArg Release.duties hnone⟩
    simp only [waiting, hports, hvlans] at hquiet ⊢
    exact .mk he hquiet hn

theorem Near.retire (h : Near v b c) (r : Release) : Twins v (b.retire r) (c.retire r) :=
  (h.queue r).reclaim

/-! ### Entries come and go -/

theorem duties_without (b : Bridge) (t : Fdb) (gone : List Entry) :
    Release.duties ((b.toLearning.without t gone).reclaimer.queue.map (·.release)) =
      Release.duties b.waiting := by
  unfold Learning.without
  by_cases hg : gone.isEmpty = true
  · simp only [hg, if_true]
    rfl
  · simp only [hg, if_false, Bool.false_eq_true, Reclaimer.retire, List.map_append,
      Release.duties_append]
    exact List.append_nil _

theorem Near.without (h : Near v b c) {t u : Fdb} (htu : t.Alike v u) (ht : t.Sorted)
    (hu : u.Sorted) (gone gone' : List Entry) :
    Near v (b.withLearning (b.toLearning.without t gone))
      (c.withLearning (c.toLearning.without u gone')) := by
  have hidle := tracks_without h.idle t gone
  have hidle' := tracks_without h.idle' u gone'
  have hduties : Release.duties ((c.toLearning.without u gone').reclaimer.queue.map (·.release)) =
      Release.duties (b.withLearning (b.toLearning.without t gone)).waiting := by
    exact ((duties_without c u gone').trans h.alike.waiting).trans (duties_without b t gone).symm
  refine ⟨?_, hidle, hidle', ht, hu⟩
  cases h.alike with
  | mk he hd hn => exact .mk htu hduties hn

theorem Near.flushPort (h : Near v b c) (f : FlushFilter) (port : Option PortIndex) (now : Int) :
    Near v (b.withLearning (b.toLearning.flushPort f port now).1)
      (c.withLearning (c.toLearning.flushPort f port now).1) :=
  h.without (h.alike.fdb.flushPort f port now) (h.sorted.flushPort f port now)
    (h.sorted'.flushPort f port now) _ _

/-- A bridge after some entries have been taken out or put in, and nothing else but releases of entries
has been run or queued. -/
inductive Took (b : Bridge) (t : Fdb) : Bridge → Prop where
  | mk {cs : Counters} {r : Reclaimer Release} (idle : r.Tracks [])
      (quiet : Release.duties (r.queue.map (·.release)) = []) :
      Took b t { b with fdb := t, counters := cs, reclaimer := r }

theorem reclaim_of_quiet (idle : b.reclaimer.Tracks []) (quiet : Release.duties b.waiting = []) :
    b.reclaim.1 = { b with reclaimer := (b.reclaimer.reclaim fun _ => []).1 } := by
  have hports : Release.allOnPorts b.waiting b.ports = b.ports := by
    rw [← Release.allOnPorts_duties, quiet]
    rfl
  have hvlans : Release.allOnVlans b.waiting b.vlans = b.vlans := by
    rw [← Release.allOnVlans_duties, quiet]
    rfl
  rw [reclaim_eq idle, hports, hvlans]

theorem Took.reclaim {t : Fdb} (h : Took b t b') : Took b t b'.reclaim.1 := by
  cases h with
  | @mk cs r idle quiet =>
    have hnone := waiting_reclaim (b := { b with fdb := t, counters := cs, reclaimer := r }) idle
    rw [reclaim_of_quiet (b := { b with fdb := t, counters := cs, reclaimer := r }) idle quiet]
      at hnone ⊢
    exact .mk (idle.reclaim _) (congrArg Release.duties hnone)

theorem Twins.took (h : Twins v b c) {t u : Fdb} (hb : Took b t b') (hc : Took c u c')
    (htu : t.Alike v u) (ht : t.Sorted) (hu : u.Sorted) : Twins v b' c' := by
  cases hb with
  | mk idle quiet =>
    cases hc with
    | mk idle' quiet' =>
      refine ⟨⟨?_, idle, idle', ht, hu⟩, quiet⟩
      cases h.alike with
      | mk he hd hn => exact .mk htu (quiet'.trans quiet.symm) hn

theorem Twins.quiet' (h : Twins v b c) : Release.duties c.waiting = [] :=
  h.alike.waiting.trans h.quiet

theorem took_self (idle : b.reclaimer.Tracks []) (quiet : Release.duties b.waiting = []) :
    Took b b.fdb b := .mk idle quiet

theorem took_settle (idle : b.reclaimer.Tracks []) (quiet : Release.duties b.waiting = []) (t : Fdb)
    (gone : List Entry) (cs : Counters) :
    Took b t (b.settle { b.toLearning.without t gone with counters := cs }) := by
  have hbefore : Took b t (b.withLearning { b.toLearning.without t gone with counters := cs }) :=
    .mk (tracks_without idle t gone) ((duties_without b t gone).trans quiet)
  exact hbefore.reclaim

theorem took_fdbFlush (idle : b.reclaimer.Tracks []) (quiet : Release.duties b.waiting = [])
    (f : FlushFilter) : Took b (b.fdb.afterFlush f b.clock) (b.fdbFlush f).1 := by
  unfold fdbFlush Learning.flush Fdb.afterFlush
  cases b.fdb.flush f b.clock with
  | error e => exact took_self idle quiet
  | ok result => exact took_settle idle quiet _ _ _

theorem took_fdbAdd (idle : b.reclaimer.Tracks []) (quiet : Release.duties b.waiting = [])
    {key : Key} {ports : PortSet} {w : Vlan} (hv : b.vlans.require key.vid = .ok w)
    (hp : b.missingPort? ports = none) (origin : Origin) :
    Took b (b.fdb.afterAdding key ports origin b.clock) (b.fdbAdd key ports origin).1 := by
  unfold fdbAdd Learning.addStatic Fdb.afterAdding
  simp only [hv, hp]
  cases b.fdb.addStatic key ports origin b.clock with
  | error e => exact took_self idle quiet
  | ok result => exact took_settle idle quiet _ _ _

theorem took_fdbDel (idle : b.reclaimer.Tracks []) (quiet : Release.duties b.waiting = [])
    (key : Key) : Took b (b.fdb.afterRemoving key) (b.fdbDel key).1 := by
  unfold fdbDel Learning.remove Fdb.afterRemoving
  cases b.fdb.remove key with
  | error e => exact took_self idle quiet
  | ok result => exact took_settle idle quiet _ _ _

end Bridge

end VlanBridge
