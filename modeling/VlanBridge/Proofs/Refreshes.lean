import Mathlib.Data.List.Induction
import VlanBridge.Proofs.Removals
import VlanBridge.Proofs.Stations
/-!
# When entries were last refreshed

While the clock moves only as the bridge sleeps, a dynamic entry says when it was last refreshed, which is
when its station was last heard at a port and in a VLAN that learn. Nothing else makes a dynamic entry or
moves its time stamp (`refreshed_run`).
-/

namespace VlanBridge

open VlanBridge.Net

/-- The clock moves in no other way than by sleeping. -/
def Event.KeepsTime : Event → Prop
  | .wake _ | .clock _ => False
  | _ => True

theorem stamp_of_lt {now : Nat} (h : now < UInt64.size) : stamp now = now := by
  have hmax : maxStamp = UInt64.size - 1 := rfl
  simp only [stamp, Int.toNat_natCast]
  omega

namespace Bridge

variable {b c : Bridge}

/-! ### The clock -/

theorem clock_reclaim (b : Bridge) : b.reclaim.1.clock = b.clock := b.housekeeping_reclaim.clock

theorem clock_retire (b : Bridge) (r : Release) : (b.retire r).clock = b.clock :=
  (b.housekeeping_retire r).clock

theorem clock_settle {s : Learning} (h : s.clock = b.clock) : (b.settle s).clock = b.clock :=
  (clock_reclaim (b.withLearning s)).trans h

theorem clock_portAdd (b : Bridge) (id : DeviceId) (ingress : IngressDefaults) :
    (b.portAdd id ingress).1.clock = b.clock := by
  unfold portAdd
  split
  · rfl
  · split
    · rfl
    · split
      · exact clock_retire _ _
      · rfl

theorem clock_portDel (b : Bridge) (n : Nat) : (b.portDel n).1.clock = b.clock := by
  unfold portDel
  split
  · rfl
  · refine (clock_retire _ _).trans ?_
    unfold releaseDevice flushDeletedPort
    split <;> split <;> rfl

theorem clock_portSetPvid (b : Bridge) (n : Nat) (vid : Vid) :
    (b.portSetPvid n vid).1.clock = b.clock := by
  unfold portSetPvid
  split <;> rfl

theorem clock_portSetIngress (b : Bridge) (n : Nat) (ingress : IngressDefaults) :
    (b.portSetIngress n ingress).1.clock = b.clock := by
  unfold portSetIngress
  split <;> rfl

theorem clock_withVlans (b : Bridge) (changed : Except BridgeError VlanDb) :
    (b.withVlans changed).1.clock = b.clock := by
  unfold withVlans
  split <;> rfl

theorem clock_withPort (b : Bridge) (n : Nat) (change : PortIndex → Except BridgeError VlanDb) :
    (b.withPort n change).1.clock = b.clock := by
  unfold withPort
  split
  · rfl
  · exact clock_withVlans b _

theorem clock_vlanDetach (b : Bridge) (vid : Vid) (n : Nat) :
    (b.vlanDetach vid n).1.clock = b.clock := by
  unfold vlanDetach
  split <;> rfl

theorem clock_vlanDel (b : Bridge) (vid : Vid) : (b.vlanDel vid).1.clock = b.clock := by
  unfold vlanDel
  split
  · rfl
  · exact clock_retire _ _

theorem clock_fdbFlush (b : Bridge) (f : FlushFilter) : (b.fdbFlush f).1.clock = b.clock := by
  unfold fdbFlush
  split
  · rfl
  · rename_i s gone hflush
    obtain ⟨t, -, rfl⟩ := Learning.flush_eq_ok hflush
    exact clock_settle rfl

theorem clock_fdbAdd (b : Bridge) (key : Key) (ports : PortSet) (origin : Origin) :
    (b.fdbAdd key ports origin).1.clock = b.clock := by
  unfold fdbAdd
  split
  · rfl
  · rfl
  · split
    · rfl
    · rename_i s gone hadd
      obtain ⟨t, replaced, -, rfl⟩ := Learning.addStatic_eq_ok hadd
      exact clock_settle rfl

theorem clock_fdbDel (b : Bridge) (key : Key) : (b.fdbDel key).1.clock = b.clock := by
  unfold fdbDel
  split
  · rfl
  · rename_i s gone hremove
    obtain ⟨t, e, -, rfl⟩ := Learning.remove_eq_ok hremove
    exact clock_settle rfl

theorem clock_startAgeing (b : Bridge) (timer : Option Timer) :
    (b.startAgeing timer).1.clock = b.clock := by
  unfold startAgeing
  split
  · rfl
  · split <;> rfl

theorem clock_shutdown (b : Bridge) : b.shutdown.clock = b.clock := by
  have hports : ∀ (is : List PortIndex) (c : Bridge),
      (is.foldl (fun c i => (c.portDel i.val).1) c).clock = c.clock := by
    intro is
    induction is with
    | nil => exact fun _ => rfl
    | cons i is ih => exact fun c => (ih _).trans (clock_portDel c i.val)
  exact (clock_reclaim _).trans (hports _ { b with nextSweep := none })

theorem clock_sleep (b : Bridge) (ms : Nat) : (b.sleep ms).clock = b.clock + ms * 1000000 := by
  -- for every number of wakes, so that none of them is computed when the goal is compared
  have hany : ∀ n finish, ({ wakes n b with clock := finish } : Bridge).clock = finish :=
    fun _ _ => rfl
  unfold sleep
  exact hany _ _

theorem clock_perform {op : Operation} (hop : op.IsControl) (hsleep : ∀ ms, op ≠ .sleep ms) :
    (b.perform op).1.clock = b.clock := by
  cases op with
  | portAdd device ingress => exact clock_portAdd b device ingress
  | portDel port => exact clock_portDel b port
  | portSetPvid port vid => exact clock_portSetPvid b port vid
  | portSetIngress port ingress => exact clock_portSetIngress b port ingress
  | vlanAdd vid => exact clock_withVlans b _
  | vlanDel vid => exact clock_vlanDel b vid
  | vlanAttach vid port tagged => exact clock_withPort b port _
  | vlanDetach vid port => exact clock_vlanDetach b vid port
  | vlanSetLearning vid enabled => exact clock_withVlans b _
  | vlanSetFlood vid c port enabled => exact clock_withPort b port _
  | vlanSetRouter vid port enabled => exact clock_withPort b port _
  | fdbFlush filter => exact clock_fdbFlush b filter
  | fdbAdd key ports origin => exact clock_fdbAdd b key ports origin
  | fdbDel key => exact clock_fdbDel b key
  | learn => exact hop.elim
  | reclaim => exact clock_reclaim b
  | quiesce => exact clock_reclaim b
  | startAgeing timer => exact clock_startAgeing b timer
  | sleep ms => exact absurd rfl (hsleep ms)
  | shutdown => exact clock_shutdown b

theorem clock_perform_le {op : Operation} (hop : op.IsControl) :
    b.clock ≤ (b.perform op).1.clock := by
  by_cases hsleep : ∃ ms, op = .sleep ms
  · obtain ⟨ms, rfl⟩ := hsleep
    have hclock : (b.perform (.sleep ms)).1.clock = b.clock + ms * 1000000 := clock_sleep b ms
    omega
  · exact Nat.le_of_eq (clock_perform hop fun ms hms => hsleep ⟨ms, hms⟩).symm

theorem clock_receive (b : Bridge) (h : Handle) (f : Frame) :
    (b.receive h f).1.clock = b.clock := by
  obtain ⟨t, net, cs, he, -⟩ := receive_fst b h f
  rw [he]

/-- Time does not go back. -/
theorem clock_next_le {e : Event} (he : e.KeepsTime) : b.clock ≤ (b.next e).clock := by
  cases e with
  | perform op control => exact clock_perform_le control
  | request r =>
    show b.clock ≤ (b.handle r).1.clock
    rw [handle_fst]
    cases hop : b.operation? r with
    | none => exact Nat.le_refl _
    | some op => exact clock_perform_le (operation?_eq_some hop).1
  | receive h f => exact Nat.le_of_eq (clock_receive b h f).symm
  | wake | clock => exact he.elim
  | trap | network => exact Nat.le_refl _

/-! ### Refreshing -/

/-- The key under which a frame's source is learned, if it is. -/
def refreshedKey? (b : Bridge) (h : Handle) (f : Frame) : Option Key :=
  match b.classified? h f, f.src? with
  | some (p, c, _), some src =>
    if p.ingress.learning && c.record.any (·.vlan.learning) && src.isStation
        && (b.fdb.find? (Key.mac c.vid src)).all (·.origin = .dynamic) then
      some (Key.mac c.vid src)
    else none
  | _, _ => none

theorem learnSource_of_learning {p : Port} {c : Classification}
    (h : (p.ingress.learning && c.record.any (·.vlan.learning)) = true) (src : Mac) :
    (b.learnSource p c src).fdb = (b.fdb.learn src c.vid p.index b.clock).1 := by
  obtain ⟨hport, hvlan⟩ := Bool.and_eq_true_iff.1 h
  unfold learnSource
  cases hr : c.record with
  | none =>
    rw [hr] at hvlan
    cases hvlan
  | some r =>
    rw [hr] at hvlan
    have hvlan : r.vlan.learning = true := hvlan
    simp only [hport, hvlan, Bool.and_self, if_true]
    rfl

theorem learnSource_of_not_learning {p : Port} {c : Classification}
    (h : ¬ (p.ingress.learning && c.record.any (·.vlan.learning)) = true) (src : Mac) :
    b.learnSource p c src = b := by
  unfold learnSource
  cases hr : c.record with
  | none => rfl
  | some r =>
    rw [hr] at h
    exact if_neg h

/-- An entry after a frame belongs to the station that the frame came from, or it was there before. -/
theorem mem_receive {h : Handle} {f : Frame} {e : Entry}
    (he : e ∈ (b.receive h f).1.fdb.entries) :
    (b.refreshedKey? h f = some e.key ∧ (e.lastSeen = stamp b.clock ∨ ∃ d ∈ b.fdb.entries,
      d.key = e.key ∧ d.origin = e.origin ∧ e.lastSeen = max d.lastSeen (stamp b.clock))) ∨
    (b.refreshedKey? h f ≠ some e.key ∧ e ∈ b.fdb.entries) := by
  rcases fdb_receive b h f with ⟨hnone, hfdb⟩ | ⟨p, c, g, src, hc, hsrc, hfdb⟩
  · rw [hfdb] at he
    refine Or.inr ⟨?_, he⟩
    simp only [refreshedKey?, hnone]
    nofun
  · have hkey : b.refreshedKey? h f =
        if p.ingress.learning && c.record.any (·.vlan.learning) && src.isStation
          && (b.fdb.find? (Key.mac c.vid src)).all (·.origin = .dynamic)
        then some (Key.mac c.vid src) else none := by
      simp only [refreshedKey?, hc, hsrc]
    rw [hfdb] at he
    by_cases hlearns : (p.ingress.learning && c.record.any (·.vlan.learning)) = true
    · rw [learnSource_of_learning hlearns] at he
      rw [hlearns, Bool.true_and] at hkey
      rcases b.fdb.learn_cases src c.vid p.index b.clock with
        ⟨_, -, hlearn, hstatic⟩ | ⟨hstation, hnone, hlearn⟩ |
        ⟨d, _, hstation, hfind, hdynamic, -, hlearn⟩
      · rw [hlearn] at he
        refine Or.inr ⟨?_, he⟩
        rw [hkey]
        cases hstation : src.isStation with
        | false => nofun
        | true =>
          obtain ⟨d, hfind, hd⟩ := hstatic hstation
          simp only [hfind, Option.all_some, hd, decide_false, Bool.and_false, Bool.false_eq_true,
            if_false]
          nofun
      · rw [hlearn] at he
        rw [hstation, hnone] at hkey
        have hkey : b.refreshedKey? h f = some (Key.mac c.vid src) := hkey
        rcases Ordered.mem_of_mem_insert he with rfl | he
        · exact Or.inl ⟨hkey, Or.inl rfl⟩
        · refine Or.inr ⟨?_, he⟩
          rw [hkey]
          intro hsame
          have hne := List.find?_eq_none.1 hnone e he
          exact hne (beq_iff_eq.2 (Option.some.inj hsame).symm)
      · rw [hlearn] at he
        have hkey : b.refreshedKey? h f = some (Key.mac c.vid src) := by
          rw [hkey, hstation, hfind]
          simp only [Option.all_some, hdynamic, decide_true, Bool.and_self, if_true]
        obtain ⟨d', hd', rfl⟩ := List.mem_map.1 he
        split
        · rename_i hsame
          exact Or.inl ⟨hkey.trans (congrArg some hsame.symm), Or.inr ⟨d', hd', rfl, rfl, rfl⟩⟩
        · rename_i hother
          refine Or.inr ⟨?_, hd'⟩
          rw [hkey]
          exact fun hsame => hother (Option.some.inj hsame).symm
    · rw [learnSource_of_not_learning hlearns] at he
      refine Or.inr ⟨?_, he⟩
      have hoff := Bool.eq_false_iff.2 hlearns
      rw [hkey, hoff]
      nofun

/-- An entry after an operation was there before, or else it is a static one that the operation adds. -/
theorem inherited_or_added {op : Operation} (hop : op.IsControl) {e : Entry}
    (he : e ∈ (b.perform op).1.fdb.entries) :
    (∃ d ∈ b.fdb.entries, Fdb.Shrunk d e) ∨ e.origin ≠ .dynamic ∧ op.addedKey? = some e.key := by
  have hself : e ∈ b.fdb.entries → ∃ d ∈ b.fdb.entries, Fdb.Shrunk d e := fun h => ⟨e, h, .refl e⟩
  by_cases hsingle : op.IsSingle
  · cases op with
    | fdbAdd key ports origin =>
      change e ∈ (b.fdbAdd key ports origin).1.fdb.entries at he
      unfold fdbAdd at he
      split at he
      · exact Or.inl (hself he)
      · exact Or.inl (hself he)
      · split at he
        · exact Or.inl (hself he)
        · rename_i s gone hadd
          obtain ⟨t, replaced, htable, rfl⟩ := Learning.addStatic_eq_ok hadd
          obtain ⟨horigin, rfl⟩ := Fdb.addStatic_eq_ok htable
          rw [settle, (resting_reclaim _).fdb] at he
          rcases Ordered.mem_of_mem_insert he with rfl | he
          · exact Or.inr ⟨horigin, rfl⟩
          · exact Or.inl (hself he)
    | fdbDel key =>
      change e ∈ (b.fdbDel key).1.fdb.entries at he
      unfold fdbDel at he
      split at he
      · exact Or.inl (hself he)
      · rename_i s gone hremove
        obtain ⟨t, d, htable, rfl⟩ := Learning.remove_eq_ok hremove
        rw [settle, (resting_reclaim _).fdb, Fdb.remove_eq_ok htable] at he
        exact Or.inl (hself (List.mem_filter.1 he).1)
    | _ => exact hsingle.elim
  · cases hk : op.remover? with
    | some k => exact Or.inl ((perform_emptied hk).entries e he)
    | none =>
      rw [(perform_resting hop hsingle hk).fdb] at he
      exact Or.inl (hself he)

/-- Other than by frames, dynamic entries are neither made nor refreshed. -/
theorem mem_perform {op : Operation} (hop : op.IsControl) {e : Entry}
    (he : e ∈ (b.perform op).1.fdb.entries) (hdynamic : e.origin = .dynamic) :
    ∃ d ∈ b.fdb.entries, Fdb.Shrunk d e :=
  (inherited_or_added hop he).resolve_right fun h => h.1 hdynamic

end Bridge

namespace Moment

/-- The key of the entry that is made or refreshed. -/
def refreshedKey? (m : Moment) : Option Key :=
  match m.event with
  | .receive h f => m.before.refreshedKey? h f
  | _ => none

/-- When the entry under a key was last made or refreshed. -/
def lastRefresh? (ms : List Moment) (key : Key) : Option Nat :=
  (ms.reverse.find? fun m => m.refreshedKey? == some key).map (·.before.clock)

theorem lastRefresh?_append (ms : List Moment) (m : Moment) (key : Key) :
    lastRefresh? (ms ++ [m]) key =
      if m.refreshedKey? = some key then some m.before.clock else lastRefresh? ms key := by
  unfold lastRefresh?
  rw [List.reverse_concat, List.find?_cons]
  by_cases h : m.refreshedKey? = some key
  · simp only [h, beq_self_eq_true, if_true, Option.map_some]
  · simp only [beq_eq_false_iff_ne.2 h, h, if_false]

end Moment

namespace Bridge

variable {b : Bridge}

/-- A dynamic entry after an event has just been made or refreshed, or it was there before. -/
theorem mem_next {e : Event} (htime : e.KeepsTime) {d : Entry} (hd : d ∈ (b.next e).fdb.entries)
    (hdynamic : d.origin = .dynamic) :
    (Moment.refreshedKey? ⟨b, e⟩ = some d.key ∧ (d.lastSeen = stamp b.clock ∨ ∃ a ∈ b.fdb.entries,
      a.key = d.key ∧ a.origin = d.origin ∧ d.lastSeen = max a.lastSeen (stamp b.clock))) ∨
    (Moment.refreshedKey? ⟨b, e⟩ ≠ some d.key ∧ ∃ a ∈ b.fdb.entries, Fdb.Shrunk a d) := by
  cases e with
  | receive h f =>
    rcases mem_receive hd with hfresh | ⟨hother, hd⟩
    · exact Or.inl hfresh
    · exact Or.inr ⟨hother, d, hd, .refl d⟩
  | perform op control => exact Or.inr ⟨nofun, mem_perform control hd hdynamic⟩
  | request r =>
    refine Or.inr ⟨nofun, ?_⟩
    change d ∈ (b.handle r).1.fdb.entries at hd
    rw [handle_fst] at hd
    cases hop : b.operation? r with
    | none =>
      rw [hop] at hd
      exact ⟨d, hd, .refl d⟩
    | some op =>
      rw [hop] at hd
      exact mem_perform (operation?_eq_some hop).1 hd hdynamic
  | wake | clock => exact htime.elim
  | trap | network => exact Or.inr ⟨nofun, d, hd, .refl d⟩

theorem run_append (b : Bridge) (es fs : List Event) : b.run (es ++ fs) = (b.run es).run fs :=
  List.foldl_append

theorem history_append (b : Bridge) (es fs : List Event) :
    b.history (es ++ fs) = b.history es ++ (b.run es).history fs := by
  induction es generalizing b with
  | nil => rfl
  | cons e es ih => exact congrArg (Moment.mk b e :: ·) (ih (b.next e))

/-- The time stamp of a dynamic entry is the time of its last refresh. -/
theorem refreshed_run {config : BridgeConfig} {network : Network}
    (hb : Bridge.create config network = .ok b) (events : List Event)
    (htime : ∀ e ∈ events, e.KeepsTime) (hclock : (b.run events).clock < UInt64.size) :
    ∀ e ∈ (b.run events).fdb.entries, e.origin = .dynamic →
      Moment.lastRefresh? (b.history events) e.key = some e.lastSeen ∧
        e.lastSeen ≤ (b.run events).clock := by
  -- the last event decides, so the run is taken apart from its end
  induction events using List.reverseRecOn with
  | nil =>
    intro e he
    have hempty : b.fdb.entries = [] := by rw [create_eq_ok hb]
    rw [run, List.foldl_nil, hempty] at he
    cases he
  | append_singleton es ev ih =>
    have hev : ev.KeepsTime := htime ev (List.mem_append_right _ (List.mem_singleton.2 rfl))
    have hnext : b.run (es ++ [ev]) = (b.run es).next ev := run_append b es [ev]
    have hle : (b.run es).clock ≤ ((b.run es).next ev).clock := clock_next_le hev
    rw [hnext] at hclock ⊢
    have hbefore := ih (fun e he => htime e (List.mem_append_left _ he)) (by omega)
    have hstamp : stamp (b.run es).clock = (b.run es).clock := stamp_of_lt (by omega)
    intro e he hdynamic
    have hhistory : b.history (es ++ [ev]) = b.history es ++ [⟨b.run es, ev⟩] :=
      history_append b es [ev]
    rw [hhistory, Moment.lastRefresh?_append]
    rcases mem_next hev he hdynamic with ⟨hkey, hfresh⟩ | ⟨hkey, d, hd, hshrunk⟩
    · rw [if_pos hkey]
      rw [hstamp] at hfresh
      have hlast : e.lastSeen = (b.run es).clock := by
        rcases hfresh with hnew | ⟨d, hd, -, horigin, hmax⟩
        · exact hnew
        · have hd := (hbefore d hd (horigin.trans hdynamic)).2
          omega
      exact ⟨congrArg some hlast.symm, by omega⟩
    · rw [if_neg hkey]
      obtain ⟨hlast, hpast⟩ := hbefore d hd (hshrunk.origin.symm.trans hdynamic)
      rw [hshrunk.key, hshrunk.lastSeen]
      exact ⟨hlast, by omega⟩

end Bridge

end VlanBridge
