import VlanBridge.Proofs.Population
import VlanBridge.Proofs.Refreshes
/-!
# Static entries stay

A static entry stays as it was installed until it is removed by its key, or until its VLAN, one of its ports
or the whole bridge is taken down, or until a flush is asked for that covers it. Nothing else that happens
to the bridge takes a port out of it, and no frame that is heard under its key counts as a station that is
new or has moved.
-/

namespace VlanBridge

open VlanBridge.Net

/-- The filter covers the entry, of whatever age, and a port of it if it names a port. -/
def FlushFilter.Covers (f : FlushFilter) (e : Entry) : Prop :=
  f.agedOnly = false ∧ (∀ v ∈ f.vid, v = e.key.vid) ∧ (∀ o ∈ f.origin, o = e.origin) ∧
    ∀ n ∈ f.port, ∃ i ∈ e.ports, i.val = n

instance (f : FlushFilter) (e : Entry) : Decidable (f.Covers e) :=
  inferInstanceAs (Decidable (f.agedOnly = false ∧ (∀ v ∈ f.vid, v = e.key.vid) ∧
    (∀ o ∈ f.origin, o = e.origin) ∧ ∀ n ∈ f.port, ∃ i ∈ e.ports, i.val = n))

/-- The operation may take the entry, or a port of it, out of the forwarding table. -/
def Operation.Removes (e : Entry) : Operation → Prop
  | .fdbDel key => key = e.key
  | .fdbFlush f => f.Covers e
  | .portDel n => ∃ i ∈ e.ports, i.val = n
  | .vlanDel vid => vid = e.key.vid
  | .shutdown => True
  | _ => False

instance (e : Entry) : DecidablePred (Operation.Removes e)
  | .fdbDel key => inferInstanceAs (Decidable (key = e.key))
  | .fdbFlush f => inferInstanceAs (Decidable (f.Covers e))
  | .portDel n => inferInstanceAs (Decidable (∃ i ∈ e.ports, i.val = n))
  | .vlanDel vid => inferInstanceAs (Decidable (vid = e.key.vid))
  | .shutdown => inferInstanceAs (Decidable True)
  | .portAdd .. | .portSetPvid .. | .portSetIngress .. | .vlanAdd _ | .vlanAttach .. | .vlanDetach ..
  | .vlanSetLearning .. | .vlanSetFlood .. | .vlanSetRouter .. | .fdbAdd .. | .learn .. | .reclaim
  | .quiesce | .startAgeing _ | .sleep _ => inferInstanceAs (Decidable False)

/-! ### The forwarding table -/

namespace Fdb

variable {t u : Fdb} {e : Entry}

/-- A static entry is never too old, so a filter that asks for its age does not cover it. -/
theorem covered_of_static (hstatic : e.origin ≠ .dynamic) {f : FlushFilter} {ageing now : Nat}
    (h : e.covered f ageing now = true) :
    f.agedOnly = false ∧ (∀ v ∈ f.vid, v = e.key.vid) ∧ ∀ o ∈ f.origin, o = e.origin := by
  have haged : e.isAged ageing now = false := by
    unfold Entry.isAged
    rw [beq_eq_false_iff_ne.2 hstatic, Bool.false_and]
  unfold Entry.covered at h
  rw [haged, Bool.or_false, Bool.and_eq_true, Bool.and_eq_true] at h
  obtain ⟨⟨hvid, horigin⟩, hage⟩ := h
  refine ⟨by simpa using hage, ?_, ?_⟩
  · intro v hv
    rw [Option.mem_def.1 hv] at hvid
    exact beq_iff_eq.1 hvid
  · intro o ho
    rw [Option.mem_def.1 ho] at horigin
    exact beq_iff_eq.1 horigin

theorem mem_flushPort_of_not_hit {f : FlushFilter} {port : Option PortIndex} {now : Int}
    (he : e ∈ t.entries) (hhit : ¬ t.isHit f port (stamp now) e = true) :
    e ∈ (t.flushPort f port now).1.entries := by
  refine mem_flushPort.2 ⟨e, he, ?_⟩
  unfold flushed?
  exact if_neg hhit

theorem mem_sweep_of_static (he : e ∈ t.entries) (hstatic : e.origin ≠ .dynamic) (now : Int) :
    e ∈ (t.sweep now).1.entries := by
  refine mem_flushPort_of_not_hit he fun hhit => ?_
  have hage := (covered_of_static hstatic (Bool.and_eq_true_iff.1 hhit).1).1
  cases hage

/-- A flush hits a static entry only if its filter covers the entry. -/
theorem covers_of_isHit (hstatic : e.origin ≠ .dynamic) {f : FlushFilter} {port : Option PortIndex}
    (hport : f.port = port.map Fin.val) {now : Nat} (hhit : t.isHit f port now e = true) :
    f.Covers e := by
  obtain ⟨hcovered, hsends⟩ := Bool.and_eq_true_iff.1 hhit
  obtain ⟨hage, hvid, horigin⟩ := covered_of_static hstatic hcovered
  refine ⟨hage, hvid, horigin, fun n hn => ?_⟩
  rw [hport] at hn
  obtain ⟨i, rfl, hi⟩ := Option.map_eq_some_iff.1 hn
  exact ⟨i, of_decide_eq_true hsends, hi⟩

theorem mem_flush_of_static (he : e ∈ t.entries) (hstatic : e.origin ≠ .dynamic) {f : FlushFilter}
    (hf : ¬ f.Covers e) {now : Int} {gone : List Entry} (h : t.flush f now = .ok (u, gone)) :
    e ∈ u.entries := by
  have hapart : ∀ port : Option PortIndex, f.port = port.map Fin.val →
      e ∈ (t.flushPort f port now).1.entries := fun port hport =>
    mem_flushPort_of_not_hit he fun hhit => hf (covers_of_isHit hstatic hport hhit)
  unfold flush at h
  split at h
  · rename_i hnone
    have hu : (t.flushPort f none now).1 = u := congrArg Prod.fst (Except.ok.inj h)
    rw [← hu]
    exact hapart none hnone
  · rename_i n hn
    split at h
    · rename_i i hi
      have hu : (t.flushPort f (some i) now).1 = u := congrArg Prod.fst (Except.ok.inj h)
      rw [← hu]
      refine hapart (some i) ?_
      rw [hn, Option.map_some, ← PortIndex.val_of_ofNat? hi]
    · split at h
      · cases h
      · cases h
        exact he

theorem Sorted.mem_addStatic_of_static (ht : t.Sorted) (he : e ∈ t.entries)
    (hstatic : e.origin ≠ .dynamic) {key : Key} {ports : PortSet} {origin : Origin} {now : Int}
    {replaced : Option Entry} (h : t.addStatic key ports origin now = .ok (u, replaced)) :
    e ∈ u.entries := by
  have hkey : e.key ≠ key := by
    rintro rfl
    exact hstatic (dynamic_of_addStatic h (ht.find?_eq_some he))
  rw [(addStatic_eq_ok h).2]
  exact Ordered.mem_insert_of_ne he fun hrank => hkey (Key.eq_of_rank_eq hrank).symm

theorem mem_remove_of_ne (he : e ∈ t.entries) {key : Key} (hkey : key ≠ e.key) {gone : Entry}
    (h : t.remove key = .ok (u, gone)) : e ∈ u.entries := by
  rw [remove_eq_ok h]
  exact List.mem_filter.2 ⟨he, bne_iff_ne.2 (Ne.symm hkey)⟩

/-- What is heard under the key of a static entry is not learned, and it is not counted. -/
theorem learn_of_static {src : Mac} {vid : Vid} (hfind : t.find? (Key.mac vid src) = some e)
    (hstatic : e.origin ≠ .dynamic) (i : PortIndex) (now : Int) :
    (t.learn src vid i now).1 = t ∧ Learning.counterOf (t.learn src vid i now).2 = none := by
  unfold learn
  split
  · exact ⟨rfl, rfl⟩
  · simp only [hfind, if_neg hstatic, Learning.counterOf, and_self]

theorem Sorted.mem_learn_of_static (ht : t.Sorted) (he : e ∈ t.entries) (hstatic : e.origin ≠ .dynamic)
    (src : Mac) (vid : Vid) (i : PortIndex) (now : Int) : e ∈ (t.learn src vid i now).1.entries := by
  have hfind := ht.find?_eq_some he
  by_cases hkey : Key.mac vid src = e.key
  · rw [← hkey] at hfind
    rw [(learn_of_static hfind hstatic i now).1]
    exact he
  · exact mem_of_find? ((t.find?_learn_of_ne hkey i now).trans hfind)

end Fdb

namespace Bridge

variable {b : Bridge} {e : Entry}

/-! ### Operations -/

theorem static_flushDeletedPort (he : e ∈ b.fdb.entries) {i : PortIndex} (hi : i ∉ e.ports) :
    e ∈ (b.flushDeletedPort i).fdb.entries := by
  have hapart : ∀ {t : Fdb} (f : FlushFilter) (now : Nat), ¬ t.isHit f (some i) now e = true :=
    fun f now hhit => hi (of_decide_eq_true (Bool.and_eq_true_iff.1 hhit).2)
  unfold flushDeletedPort
  split
  · exact Fdb.mem_flushPort_of_not_hit he (hapart _ _)
  · exact Fdb.mem_flushPort_of_not_hit (Fdb.mem_flushPort_of_not_hit he (hapart _ _)) (hapart _ _)

theorem static_portDel (hs : b.Sound) (he : e ∈ b.fdb.entries) {n : Nat}
    (hn : ¬ ∃ i ∈ e.ports, i.val = n) : e ∈ (b.portDel n).1.fdb.entries := by
  cases hremove : b.ports.remove n with
  | error _ =>
    unfold portDel
    rw [hremove]
    exact he
  | ok out =>
    obtain ⟨ports, p⟩ := out
    obtain ⟨-, -, hfdb⟩ := portDel_tables hremove
    obtain ⟨i, hi, -, hp, -⟩ := PortTable.remove_eq_ok hremove
    rw [hfdb, hs.ports.index i p hp]
    exact static_flushDeletedPort he fun hmem => hn ⟨i, hmem, hi⟩

theorem static_vlanDel (he : e ∈ b.fdb.entries) {vid : Vid} (hvid : vid ≠ e.key.vid) :
    e ∈ (b.vlanDel vid).1.fdb.entries := by
  unfold vlanDel
  split
  · exact he
  · rw [(resting_retire _ _).fdb]
    refine Fdb.mem_flushPort_of_not_hit he fun hhit => ?_
    have hcovered := (Bool.and_eq_true_iff.1 hhit).1
    simp [Entry.covered, hvid] at hcovered

theorem static_fdbFlush (he : e ∈ b.fdb.entries) (hstatic : e.origin ≠ .dynamic) {f : FlushFilter}
    (hf : ¬ f.Covers e) : e ∈ (b.fdbFlush f).1.fdb.entries := by
  unfold fdbFlush
  split
  · exact he
  · rename_i s gone hflush
    obtain ⟨t, htable, rfl⟩ := Learning.flush_eq_ok hflush
    rw [settle, (resting_reclaim _).fdb]
    exact Fdb.mem_flush_of_static he hstatic hf htable

theorem static_fdbAdd (hs : b.Sound) (he : e ∈ b.fdb.entries) (hstatic : e.origin ≠ .dynamic)
    (key : Key) (ports : PortSet) (origin : Origin) :
    e ∈ (b.fdbAdd key ports origin).1.fdb.entries := by
  unfold fdbAdd
  split
  · exact he
  · exact he
  · split
    · exact he
    · rename_i s gone hadd
      obtain ⟨t, replaced, htable, rfl⟩ := Learning.addStatic_eq_ok hadd
      rw [settle, (resting_reclaim _).fdb]
      exact hs.entries.mem_addStatic_of_static he hstatic htable

theorem static_fdbDel (he : e ∈ b.fdb.entries) {key : Key} (hkey : key ≠ e.key) :
    e ∈ (b.fdbDel key).1.fdb.entries := by
  unfold fdbDel
  split
  · exact he
  · rename_i s gone hremove
    obtain ⟨t, d, htable, rfl⟩ := Learning.remove_eq_ok hremove
    rw [settle, (resting_reclaim _).fdb]
    exact Fdb.mem_remove_of_ne he hkey htable

theorem fdb_wake (b : Bridge) (due : Nat) : (b.wake due).fdb = (b.fdb.sweep due).1 :=
  (reclaim_tables _).2.2.1

theorem static_wakes (hstatic : e.origin ≠ .dynamic) (n : Nat) (he : e ∈ b.fdb.entries) :
    e ∈ (wakes n b).fdb.entries := by
  induction n generalizing b with
  | zero => exact he
  | succ n ih =>
    unfold wakes
    split
    · rename_i alarm _
      refine ih ?_
      rw [fdb_wake]
      exact Fdb.mem_sweep_of_static he hstatic alarm.due
    · exact he

theorem static_sleep (he : e ∈ b.fdb.entries) (hstatic : e.origin ≠ .dynamic) (ms : Nat) :
    e ∈ (b.sleep ms).fdb.entries := by
  -- for every number of wakes, so that none of them is computed when the goal is compared
  have hany : ∀ n finish, e ∈ ({ wakes n b with clock := finish } : Bridge).fdb.entries :=
    fun n _ => static_wakes hstatic n he
  unfold sleep
  exact hany _ _

theorem static_perform (hs : b.Sound) (he : e ∈ b.fdb.entries) (hstatic : e.origin ≠ .dynamic)
    {op : Operation} (hop : op.IsControl) (hkeep : ¬ op.Removes e) :
    e ∈ (b.perform op).1.fdb.entries := by
  have hrest : ¬ op.IsSingle → op.remover? = none → e ∈ (b.perform op).1.fdb.entries := by
    intro hmany hnone
    rw [(perform_resting hop hmany hnone).fdb]
    exact he
  cases op with
  | portDel port => exact static_portDel hs he hkeep
  | vlanDel vid => exact static_vlanDel he hkeep
  | fdbFlush filter => exact static_fdbFlush he hstatic hkeep
  | fdbAdd key ports origin => exact static_fdbAdd hs he hstatic key ports origin
  | fdbDel key => exact static_fdbDel he hkeep
  | sleep ms => exact static_sleep he hstatic ms
  | shutdown => exact absurd trivial hkeep
  | learn => exact hop.elim
  | portAdd | portSetPvid | portSetIngress | vlanAdd | vlanAttach | vlanDetach | vlanSetLearning
    | vlanSetFlood | vlanSetRouter | reclaim | quiesce | startAgeing => exact hrest id rfl

/-! ### Frames -/

/-- The key under which the source of a frame would be learned, wherever it may be learned. -/
def sourceKey? (b : Bridge) (h : Handle) (f : Frame) : Option Key :=
  match b.classified? h f, f.src? with
  | some (_, c, _), some src => some (Key.mac c.vid src)
  | _, _ => none

theorem learnSource_of_static {p : Port} {c : Classification} {src : Mac}
    (hfind : b.fdb.find? (Key.mac c.vid src) = some e) (hstatic : e.origin ≠ .dynamic) :
    Resting b (b.learnSource p c src) := by
  rcases learnSource_eq b p c src with hsame | ⟨-, hlearn⟩
  · rw [hsame]
    exact .refl b
  · obtain ⟨htable, hcounter⟩ := Fdb.learn_of_static hfind hstatic p.index b.clock
    rw [hlearn]
    refine ⟨htable, ?_⟩
    simp only [withLearning, Learning.learn, Learning.learnedAs, hcounter]
    exact .refl _

theorem static_receive (hsorted : b.fdb.Sorted) (he : e ∈ b.fdb.entries)
    (hstatic : e.origin ≠ .dynamic) (h : Handle) (f : Frame) :
    e ∈ (b.receive h f).1.fdb.entries := by
  obtain ⟨t, net, cs, hafter, ht, -⟩ := receive_fst b h f
  rw [hafter]
  cases ht with
  | nothing => exact he
  | source src hc hr => exact hsorted.mem_learn_of_static he hstatic ..

/-- A frame that is heard under no other key than a static entry's leaves the entries and their counters
alone. -/
theorem resting_receive_of_static {h : Handle} {f : Frame} {key : Key}
    (hfind : b.fdb.find? key = some e) (hstatic : e.origin ≠ .dynamic)
    (hkey : ∀ other ∈ b.sourceKey? h f, other = key) : Resting b (b.receive h f).1 := by
  have henter : Resting b b.enter.1 := ⟨rfl, b.counters.sameEntries_count rfl⟩
  rcases resting_receive b h f with hrest | ⟨p, c, g, src, hc, hsrc, hrest⟩
  · exact hrest
  · have hsource : Key.mac c.vid src = key := by
      refine hkey _ ?_
      unfold sourceKey?
      rw [hc, hsrc]
      rfl
    subst hsource
    exact (henter.trans (learnSource_of_static hfind hstatic)).trans hrest

/-! ### Whole runs -/

theorem static_next (hb : b.Reachable) (he : e ∈ b.fdb.entries) (hstatic : e.origin ≠ .dynamic)
    {ev : Event} (hkeep : ∀ op ∈ Moment.operation? ⟨b, ev⟩, ¬ op.Removes e) :
    e ∈ (b.next ev).fdb.entries := by
  cases ev with
  | perform op control => exact static_perform hb.sound he hstatic control (hkeep op rfl)
  | request r =>
    change e ∈ (b.handle r).1.fdb.entries
    rw [handle_fst]
    cases hop : b.operation? r with
    | none => exact he
    | some op => exact static_perform hb.sound he hstatic (operation?_eq_some hop).1 (hkeep op hop)
  | receive h f => exact static_receive hb.sound.entries he hstatic h f
  | wake now =>
    change e ∈ (b.wake now).fdb.entries
    rw [fdb_wake]
    exact Fdb.mem_sweep_of_static he hstatic now
  | clock | trap | network => exact he

theorem static_run (hb : b.Reachable) (he : e ∈ b.fdb.entries) (hstatic : e.origin ≠ .dynamic)
    {events : List Event}
    (hkeep : ∀ m ∈ b.history events, ∀ op ∈ m.operation?, ¬ op.Removes e) :
    e ∈ (b.run events).fdb.entries ∧
      ∀ m ∈ b.history events, m.before.Reachable ∧ e ∈ m.before.fdb.entries := by
  induction events generalizing b with
  | nil => exact ⟨he, fun m hm => absurd hm List.not_mem_nil⟩
  | cons ev es ih =>
    have hnow := static_next hb he hstatic (hkeep ⟨b, ev⟩ List.mem_cons_self)
    obtain ⟨hlast, hbefore⟩ := ih (hb.next ev) hnow fun m hm => hkeep m (List.mem_cons_of_mem _ hm)
    refine ⟨hlast, fun m hm => ?_⟩
    rcases List.mem_cons.1 hm with rfl | hm
    · exact ⟨hb, he⟩
    · exact hbefore m hm

/-- A static entry stays as it was installed, with its origin and its ports, all through a run in which no
operation removes it, its VLAN, one of its ports, or all ports, and no flush covers it. And no frame that is
heard under its key counts as a station that is learned or that has moved. -/
theorem static_entry_stays (hb : b.Reachable) {key : Key} (hfind : b.fdb.find? key = some e)
    (hstatic : e.origin ≠ .dynamic) {events : List Event}
    (hkeep : ∀ m ∈ b.history events, ∀ op ∈ m.operation?, ¬ op.Removes e) :
    (∀ early, early <+: events → (b.run early).fdb.find? key = some e) ∧
    ∀ m ∈ b.history events, ∀ h f, m.event = .receive h f →
      (∀ other ∈ m.before.sourceKey? h f, other = key) →
      m.after.counters.get .learned = m.before.counters.get .learned ∧
        m.after.counters.get .stationMoves = m.before.counters.get .stationMoves := by
  obtain ⟨he, hkey⟩ := hb.sound.entries.find?_eq_some_iff.1 hfind
  constructor
  · rintro early ⟨late, rfl⟩
    have hkeep' : ∀ m ∈ b.history early, ∀ op ∈ m.operation?, ¬ op.Removes e := by
      intro m hm
      refine hkeep m ?_
      rw [history_append]
      exact List.mem_append_left _ hm
    have hearly := (static_run hb he hstatic hkeep').1
    exact (hb.run early).sound.entries.find?_eq_some_iff.2 ⟨hearly, hkey⟩
  · intro m hm h f hevent hsource
    obtain ⟨hreachable, hmem⟩ := (static_run hb he hstatic hkeep).2 m hm
    have hbefore := hreachable.sound.entries.find?_eq_some_iff.2 ⟨hmem, hkey⟩
    have hrest := resting_receive_of_static hbefore hstatic hsource
    have hafter : m.after = (m.before.receive h f).1 := by
      unfold Moment.after
      rw [hevent]
      rfl
    rw [hafter]
    exact ⟨hrest.counters .learned rfl, hrest.counters .stationMoves rfl⟩

/-- Its station is heard at another port, it is installed once more, the dynamic entries of its port are
flushed, the other port is deleted, and time passes with the ageing task at work. -/
theorem static_entry_stays_meanwhile :
    let station : Mac := ⟨2, 0, 0, 0, 0, 9⟩
    let key := Key.mac Vid.zero station
    let hello := Frame.ethernet Mac.broadcast station EtherType.ipv4 []
    let e : Entry := ⟨key, .user, PortSet.singleton 1, 0⟩
    let b := (beside ["eth0", "eth1"]).run [.request (.portAdd "eth0" {}),
      .request (.portAdd "eth1" {}), .request (.fdbAdd key ["eth0"] .user)]
    let events : List Event := [.receive ⟨2, 1⟩ hello, .request (.fdbAdd key ["eth1"] .external),
      .request (.fdbFlush (some "eth0") none (some .dynamic) false), .request (.portDel "eth1"),
      .perform (.startAgeing (some {})) trivial, .perform (.sleep 3600000) trivial]
    b.fdb.find? key = some e ∧ (b.run events).fdb.find? key = some e ∧
      (b.receive ⟨2, 1⟩ hello).1.counters.get .stationMoves = b.counters.get .stationMoves := by
  intro station key hello e b events
  have hfind : b.fdb.find? key = some e := by decide +kernel
  have hkeep : ∀ m ∈ b.history events, ∀ op ∈ m.operation?, ¬ op.Removes e := by decide +kernel
  have hsource : ∀ other ∈ b.sourceKey? ⟨2, 1⟩ hello, other = key := by decide +kernel
  have hb : b.Reachable := (reachable_beside _).run _
  clear_value b
  obtain ⟨hentry, hcounters⟩ := static_entry_stays hb hfind (by decide) hkeep
  have hfirst := hcounters ⟨b, .receive ⟨2, 1⟩ hello⟩ List.mem_cons_self _ _ rfl hsource
  exact ⟨hfind, hentry events List.prefix_rfl, hfirst.2⟩

end Bridge

end VlanBridge
