import VlanBridge.Proofs.StaticEntries
/-!
# Ageing on time

The ageing task sweeps at whole periods after its start. An entry outlasts a sweep if its last refresh
was at most the ageing time before; an entry that is there after a sweep was refreshed since, or has
outlasted it. So nothing ages early, and nothing is left for longer than the ageing time and one period.
-/

namespace VlanBridge

open VlanBridge.Net

/-- A frame comes in, or the bridge sleeps. -/
def Event.IsWaking : Event → Prop
  | .receive .. | .perform (.sleep _) _ => True
  | _ => False

theorem Event.IsWaking.keepsTime {ev : Event} (h : ev.IsWaking) : ev.KeepsTime := by
  cases ev with
  | wake | clock => exact h
  | perform | request | receive | trap | network => exact trivial

theorem Event.IsWaking.keeps {ev : Event} (h : ev.IsWaking) (b : Bridge) (e : Entry) :
    ∀ op ∈ Moment.operation? ⟨b, ev⟩, ¬ op.Removes e := by
  cases ev with
  | perform op control =>
    cases op with
    | sleep ms =>
      intro op hop
      cases hop
      exact id
    | _ => exact h.elim
  | receive => exact nofun
  | request | wake | clock | trap | network => exact h.elim

/-- A sweep at a point of time does not remove the entry. -/
def Entry.Outlasts (e : Entry) (ageing now : Nat) : Prop :=
  e.origin = .dynamic → now ≤ e.lastSeen + ageing

namespace Fdb

variable {t : Fdb} {e : Entry}

theorem flushed?_none (t : Fdb) (f : FlushFilter) (now : Nat) (e : Entry) :
    t.flushed? f none now e = if e.covered f t.ageing now then none else some e := by
  by_cases hc : e.covered f t.ageing now = true
  · rw [flushed?_none_of_covered hc, if_pos hc]
  · simp only [flushed?, isHit, hc, Bool.false_and, Bool.false_eq_true, if_false]

theorem covered_aged (e : Entry) (ageing now : Nat) :
    e.covered FlushFilter.aged ageing now = e.isAged ageing now := by
  unfold Entry.covered Entry.isAged
  cases e.origin <;> simp [FlushFilter.aged]

theorem not_isAged_iff {ageing now : Nat} (hnow : now < UInt64.size) :
    e.isAged ageing now = false ↔ e.Outlasts ageing now := by
  have hmax : maxStamp = UInt64.size - 1 := rfl
  unfold Entry.isAged Entry.Outlasts Entry.idle
  rw [Bool.and_eq_false_imp, beq_iff_eq, decide_eq_false_iff_not]
  constructor
  · intro h hdynamic
    have hidle := h hdynamic
    omega
  · intro h hdynamic
    have hlast := h hdynamic
    omega

/-- A sweep keeps the entries that outlast it as they are. -/
theorem mem_sweep {now : Nat} (hnow : now < UInt64.size) :
    e ∈ (t.sweep now).1.entries ↔ e ∈ t.entries ∧ e.Outlasts t.ageing now := by
  have hone : ∀ d, t.flushed? FlushFilter.aged none now d = some e ↔
      d = e ∧ e.Outlasts t.ageing now := by
    intro d
    rw [flushed?_none, covered_aged]
    cases haged : d.isAged t.ageing now with
    | true =>
      rw [if_pos rfl]
      refine ⟨nofun, ?_⟩
      rintro ⟨rfl, hlasts⟩
      rw [← not_isAged_iff hnow, haged] at hlasts
      cases hlasts
    | false =>
      rw [if_neg Bool.false_ne_true, Option.some.injEq]
      constructor
      · rintro rfl
        exact ⟨rfl, (not_isAged_iff hnow).1 haged⟩
      · exact And.left
  unfold sweep
  rw [mem_flushPort, stamp_of_lt hnow]
  simp only [hone]
  constructor
  · rintro ⟨d, hd, rfl, hlasts⟩
    exact ⟨hd, hlasts⟩
  · rintro ⟨he, hlasts⟩
    exact ⟨e, he, rfl, hlasts⟩

theorem ageing_learn (t : Fdb) (src : Mac) (vid : Vid) (i : PortIndex) (now : Int) :
    (t.learn src vid i now).1.ageing = t.ageing := by
  rcases t.learn_cases src vid i now with
    ⟨_, -, hlearn, -⟩ | ⟨-, -, hlearn⟩ | ⟨_, _, -, -, -, -, hlearn⟩
  · rw [hlearn]
  · rw [hlearn]
    rfl
  · rw [hlearn]
    rfl

end Fdb

namespace Bridge

variable {b c : Bridge} {e : Entry} {timer : Timer}

/-! ### The ageing time -/

theorem Transition.ageing_eq (h : Transition b c) : c.fdb.ageing = b.fdb.ageing := by
  cases h with
  | aside h => rw [h.fdb]
  | reclaimed => rw [(reclaim_tables b).2.2.1]
  | learned src now hp hv => exact Fdb.ageing_learn ..
  | entryAdded hv hports h =>
    obtain ⟨t, replaced, hadd, rfl⟩ := Learning.addStatic_eq_ok h
    rw [(Fdb.addStatic_eq_ok hadd).2]
    rfl
  | entryRemoved h =>
    obtain ⟨t, e, hremove, rfl⟩ := Learning.remove_eq_ok h
    rw [Fdb.remove_eq_ok hremove]
    rfl
  | flushed | portAdded | portRefused | portDeleted | portSet | vlanCreated | vlanDeleted
    | vlanEdited => rfl

theorem Path.ageing_eq (h : Path b c) : c.fdb.ageing = b.fdb.ageing := by
  induction h with
  | refl => rfl
  | tail _ h ih => exact h.ageing_eq.trans ih

theorem ageing_run (b : Bridge) (events : List Event) :
    (b.run events).fdb.ageing = b.fdb.ageing := by
  induction events generalizing b with
  | nil => rfl
  | cons ev es ih => exact (ih (b.next ev)).trans (next_path b ev).ageing_eq

theorem sweepPeriod_of_ageing (h : c.fdb.ageing = b.fdb.ageing) : c.sweepPeriod = b.sweepPeriod := by
  unfold sweepPeriod
  rw [h]

/-! ### Waking -/

theorem nextSweep_wake (b : Bridge) (due : Nat) : (b.wake due).nextSweep =
    b.nextSweep.map fun alarm => alarm.timer.set due b.sweepPeriod :=
  (b.swept due).housekeeping_reclaim.nextSweep

/-- What several wakes in turn leave, each as long after the one before as the timer waits. -/
theorem mem_wakes {n due : Nat} (hdue : b.nextSweep = some ⟨timer, due⟩)
    (hlast : ∀ j < n, due + j * timer.wait b.sweepPeriod < UInt64.size) :
    (wakes n b).nextSweep = some ⟨timer, due + n * timer.wait b.sweepPeriod⟩ ∧
      (wakes n b).fdb.ageing = b.fdb.ageing ∧
      ∀ e, e ∈ (wakes n b).fdb.entries ↔ e ∈ b.fdb.entries ∧
        ∀ j < n, e.Outlasts b.fdb.ageing (due + j * timer.wait b.sweepPeriod) := by
  induction n generalizing b due with
  | zero =>
    refine ⟨?_, rfl, fun e => ?_⟩
    · rw [Nat.zero_mul]
      exact hdue
    · exact ⟨fun he => ⟨he, nofun⟩, And.left⟩
  | succ n ih =>
    -- one wake at `due`, and then as many as before from the next one on
    have hperiod : (b.wake due).sweepPeriod = b.sweepPeriod :=
      sweepPeriod_of_ageing (wake_path b due).ageing_eq
    have hshift : ∀ j, due + timer.wait b.sweepPeriod + j * timer.wait b.sweepPeriod =
        due + (j + 1) * timer.wait b.sweepPeriod := by
      intro j
      rw [Nat.succ_mul]
      omega
    have hwakes : wakes (n + 1) b = wakes n (b.wake due) := by
      rw [wakes, hdue]
    have hnext : (b.wake due).nextSweep = some ⟨timer, due + timer.wait b.sweepPeriod⟩ := by
      rw [nextSweep_wake, hdue]
      rfl
    obtain ⟨hnext, hageing, hmem⟩ := ih hnext (by
      intro j hj
      rw [hperiod, hshift]
      exact hlast (j + 1) (by omega))
    rw [hperiod, hshift] at hnext
    rw [hwakes]
    refine ⟨hnext, hageing.trans (wake_path b due).ageing_eq, fun e => ?_⟩
    have hfirst : due < UInt64.size := by
      have hzero := hlast 0 (by omega)
      omega
    rw [hmem, fdb_wake, Fdb.mem_sweep hfirst, hperiod]
    constructor
    · rintro ⟨⟨he, hlasts⟩, hrest⟩
      refine ⟨he, fun j hj => ?_⟩
      cases j with
      | zero =>
        rw [Nat.zero_mul]
        exact hlasts
      | succ j =>
        rw [← hshift]
        exact hrest j (by omega)
    · rintro ⟨he, hall⟩
      have hzero := hall 0 (by omega)
      rw [Nat.zero_mul] at hzero
      refine ⟨⟨he, hzero⟩, fun j hj => ?_⟩
      rw [hshift]
      exact hall (j + 1) (by omega)

/-- The task wakes as often as a wake is due until the end of a sleep. -/
theorem lt_wakesUntil_iff {due finish j : Nat} (hdue : b.nextSweep = some ⟨timer, due⟩) :
    j < b.wakesUntil finish ↔ due + j * timer.wait b.sweepPeriod ≤ finish := by
  unfold wakesUntil
  rw [hdue]
  simp only
  split
  · rename_i hle
    rw [Nat.lt_succ_iff, Nat.le_div_iff_mul_le (timer.wait_pos b.sweepPeriod_pos)]
    omega
  · omega

theorem due_lt_of_lt_wakesUntil {due finish : Nat} (hdue : b.nextSweep = some ⟨timer, due⟩)
    (hfinish : finish < UInt64.size) :
    ∀ j < b.wakesUntil finish, due + j * timer.wait b.sweepPeriod < UInt64.size := by
  intro j hj
  exact Nat.lt_of_le_of_lt ((lt_wakesUntil_iff hdue).1 hj) hfinish

/-! ### Sleeping -/

/-- What the wakes of a sleep leave, it leaves. -/
theorem sleep_tables (b : Bridge) (ms : Nat) :
    let woken := wakes (b.wakesUntil (b.clock + ms * 1000000)) b
    (b.sleep ms).fdb = woken.fdb ∧ (b.sleep ms).nextSweep = woken.nextSweep := by
  -- as in `clock_sleep`
  have hany : ∀ n finish, ({ wakes n b with clock := finish } : Bridge).fdb = (wakes n b).fdb ∧
      ({ wakes n b with clock := finish } : Bridge).nextSweep = (wakes n b).nextSweep :=
    fun _ _ => ⟨rfl, rfl⟩
  unfold sleep
  exact hany _ _

/-- A sleep removes just the entries that do not outlast a sweep which is due by its end. -/
theorem mem_sleep {due ms : Nat} (hdue : b.nextSweep = some ⟨timer, due⟩)
    (hfinish : b.clock + ms * 1000000 < UInt64.size) :
    e ∈ (b.sleep ms).fdb.entries ↔ e ∈ b.fdb.entries ∧
      ∀ j, due + j * timer.wait b.sweepPeriod ≤ b.clock + ms * 1000000 →
        e.Outlasts b.fdb.ageing (due + j * timer.wait b.sweepPeriod) := by
  obtain ⟨-, -, hmem⟩ := mem_wakes hdue (due_lt_of_lt_wakesUntil hdue hfinish)
  rw [(sleep_tables b ms).1, hmem]
  simp only [lt_wakesUntil_iff hdue]

theorem schedule_sleep {due ms : Nat} (hdue : b.nextSweep = some ⟨timer, due⟩)
    (hfinish : b.clock + ms * 1000000 < UInt64.size) :
    (b.sleep ms).fdb.ageing = b.fdb.ageing ∧
      ∃ n, (b.sleep ms).nextSweep = some ⟨timer, due + n * timer.wait b.sweepPeriod⟩ ∧
        ∀ j, j < n ↔ due + j * timer.wait b.sweepPeriod ≤ b.clock + ms * 1000000 := by
  obtain ⟨hnext, hageing, -⟩ := mem_wakes hdue (due_lt_of_lt_wakesUntil hdue hfinish)
  obtain ⟨hfdb, hschedule⟩ := sleep_tables b ms
  rw [hfdb, hschedule]
  exact ⟨hageing, _, hnext, fun j => lt_wakesUntil_iff hdue⟩

/-! ### The task at work -/

/-- The ageing task has been at work since a point of time, woken after each period: its next sweep is the
first one after the clock, and the entries that are there have outlasted all sweeps before. -/
structure AgeingSince (start period : Nat) (b : Bridge) : Prop where
  due : ∃ timer k, b.nextSweep = some ⟨timer, start + (k + 1) * period⟩ ∧
    timer.wait b.sweepPeriod = period ∧ start + k * period ≤ b.clock ∧
    b.clock < start + (k + 1) * period
  swept : ∀ e ∈ b.fdb.entries, ∀ k, 0 < k → start + k * period ≤ b.clock →
    e.Outlasts b.fdb.ageing (start + k * period)

theorem startAgeing_of_idle (hidle : b.nextSweep = none) (timer : Timer) :
    (b.startAgeing (some timer)).1 =
      { b with nextSweep := some (timer.set b.clock b.sweepPeriod) } := by
  unfold startAgeing
  rw [hidle]

theorem AgeingSince.start (hidle : b.nextSweep = none) (timer : Timer) :
    (b.startAgeing (some timer)).1.AgeingSince b.clock (timer.wait b.sweepPeriod) := by
  have hpos : 0 < timer.wait b.sweepPeriod := timer.wait_pos b.sweepPeriod_pos
  rw [startAgeing_of_idle hidle]
  refine ⟨⟨timer, 0, ?_, rfl, ?_, ?_⟩, ?_⟩
  · rw [Nat.zero_add, Nat.one_mul]
    rfl
  · rw [Nat.zero_mul]
    exact Nat.le_refl _
  · rw [Nat.zero_add, Nat.one_mul]
    exact Nat.lt_add_of_pos_right hpos
  · intro e he k hk hle
    have hmul : 0 < k * timer.wait b.sweepPeriod := Nat.mul_pos hk hpos
    have hle : b.clock + k * timer.wait b.sweepPeriod ≤ b.clock := hle
    omega

/-- An entry that a frame makes or refreshes has outlasted all sweeps until now. -/
theorem AgeingSince.receive {start period : Nat} (ha : b.AgeingSince start period)
    (hclock : b.clock < UInt64.size) (h : Handle) (f : Frame) :
    (b.receive h f).1.AgeingSince start period := by
  have hageing : (b.receive h f).1.fdb.ageing = b.fdb.ageing :=
    (next_path b (.receive h f)).ageing_eq
  have hnext : (b.receive h f).1.nextSweep = b.nextSweep := by
    obtain ⟨t, net, cs, he, -⟩ := receive_fst b h f
    rw [he]
  obtain ⟨hdue, hswept⟩ := ha
  refine ⟨?_, ?_⟩
  · rw [hnext, sweepPeriod_of_ageing hageing, clock_receive]
    exact hdue
  · intro e he k hk hle
    rw [clock_receive] at hle
    rw [hageing]
    rcases mem_receive he with ⟨-, hfresh⟩ | ⟨-, he⟩
    · -- the sweep was before the refresh, which is now
      intro _
      rw [stamp_of_lt hclock] at hfresh
      have hlast : b.clock ≤ e.lastSeen := by
        rcases hfresh with hnew | ⟨d, -, -, -, hmax⟩
        · omega
        · omega
      omega
    · exact hswept e he k hk hle

theorem sweep_shift (start period k j : Nat) :
    start + (k + 1) * period + j * period = start + (k + j + 1) * period := by
  rw [Nat.add_assoc, ← Nat.add_mul]
  congr 2
  omega

/-- The sweeps that are still to come are those after the last one. -/
theorem lt_sweep_iff {start period k₀ k now : Nat} (hpast : start + k₀ * period ≤ now)
    (hahead : now < start + (k₀ + 1) * period) : now < start + k * period ↔ k₀ < k := by
  constructor
  · intro hlater
    by_contra hnot
    have hmul : k * period ≤ k₀ * period := Nat.mul_le_mul_right _ (by omega)
    omega
  · intro hk
    have hmul : (k₀ + 1) * period ≤ k * period := Nat.mul_le_mul_right _ hk
    omega

/-- A sleep removes the entries that do not outlast the sweeps which fall into it. -/
theorem AgeingSince.mem_sleep {start period ms : Nat} (ha : b.AgeingSince start period)
    (hfinish : b.clock + ms * 1000000 < UInt64.size) :
    e ∈ (b.sleep ms).fdb.entries ↔ e ∈ b.fdb.entries ∧
      ∀ k, b.clock < start + k * period → start + k * period ≤ b.clock + ms * 1000000 →
        e.Outlasts b.fdb.ageing (start + k * period) := by
  obtain ⟨timer, k₀, hdue, hwait, hpast, hahead⟩ := ha.due
  rw [Bridge.mem_sleep hdue hfinish, hwait, and_congr_right_iff]
  intro he
  constructor
  · intro hlasts k hlater hle
    obtain ⟨j, rfl⟩ := Nat.exists_eq_add_of_lt ((lt_sweep_iff hpast hahead).1 hlater)
    rw [← sweep_shift] at hle ⊢
    exact hlasts j hle
  · intro hlasts j hle
    rw [sweep_shift] at hle ⊢
    exact hlasts _ ((lt_sweep_iff hpast hahead).2 (by omega)) hle

theorem AgeingSince.sleep {start period ms : Nat} (ha : b.AgeingSince start period)
    (hfinish : b.clock + ms * 1000000 < UInt64.size) : (b.sleep ms).AgeingSince start period := by
  obtain ⟨timer, k₀, hdue, hwait, hpast, hahead⟩ := ha.due
  obtain ⟨hageing, n, hnext, hn⟩ := schedule_sleep hdue hfinish
  simp only [hwait, sweep_shift] at hn hnext
  refine ⟨⟨timer, k₀ + n, hnext, ?_, ?_, ?_⟩, ?_⟩
  · rw [sweepPeriod_of_ageing hageing]
    exact hwait
  · rw [clock_sleep]
    cases n with
    | zero =>
      rw [Nat.add_zero]
      omega
    | succ n => exact (hn n).1 (Nat.lt_succ_self n)
  · rw [clock_sleep]
    exact Nat.lt_of_not_le fun hle => Nat.lt_irrefl n ((hn n).2 hle)
  · intro e he k hk hle
    obtain ⟨he, hlasts⟩ := (ha.mem_sleep hfinish).1 he
    rw [clock_sleep] at hle
    rw [hageing]
    rcases Nat.lt_or_ge b.clock (start + k * period) with hlater | hearlier
    · exact hlasts k hlater hle
    · exact ha.swept e he k hk hearlier

theorem AgeingSince.next {start period : Nat} (ha : b.AgeingSince start period) {ev : Event}
    (hev : ev.IsWaking) (hclock : (b.next ev).clock < UInt64.size) :
    (b.next ev).AgeingSince start period := by
  cases ev with
  | receive h f =>
    have hnow : (b.receive h f).1.clock < UInt64.size := hclock
    rw [clock_receive] at hnow
    exact ha.receive hnow h f
  | perform op control =>
    cases op with
    | sleep ms =>
      have hnow : (b.sleep ms).clock < UInt64.size := hclock
      rw [clock_sleep] at hnow
      exact ha.sleep hnow
    | _ => exact hev.elim
  | request | wake | clock | trap | network => exact hev.elim

theorem clock_run_le {events : List Event} (htime : ∀ ev ∈ events, ev.KeepsTime) :
    b.clock ≤ (b.run events).clock := by
  induction events generalizing b with
  | nil => exact Nat.le_refl _
  | cons ev es ih =>
    exact Nat.le_trans (clock_next_le (htime ev List.mem_cons_self))
      (ih fun ev' h => htime ev' (List.mem_cons_of_mem _ h))

/-- The task stays at work while frames come in and the bridge sleeps, and static entries stay. -/
theorem AgeingSince.run {start period : Nat} (hb : b.Reachable) (ha : b.AgeingSince start period)
    {events : List Event} (hwaking : ∀ ev ∈ events, ev.IsWaking)
    (hclock : (b.run events).clock < UInt64.size) :
    (b.run events).AgeingSince start period ∧
      ∀ e ∈ b.fdb.entries, e.origin ≠ .dynamic → e ∈ (b.run events).fdb.entries := by
  induction events generalizing b with
  | nil => exact ⟨ha, fun _ he _ => he⟩
  | cons ev es ih =>
    have hev : ev.IsWaking := hwaking ev List.mem_cons_self
    have hrest : ∀ ev' ∈ es, ev'.IsWaking := fun ev' h => hwaking ev' (List.mem_cons_of_mem _ h)
    have hle : (b.next ev).clock ≤ ((b.next ev).run es).clock :=
      clock_run_le fun ev' h => (hrest ev' h).keepsTime
    have hclock : ((b.next ev).run es).clock < UInt64.size := hclock
    have hnow : (b.next ev).clock < UInt64.size := Nat.lt_of_le_of_lt hle hclock
    obtain ⟨hlater, hstay⟩ := ih (hb.next ev) (ha.next hev hnow) hrest hclock
    exact ⟨hlater, fun e he hstatic => hstay e (static_next hb he hstatic (hev.keeps b e)) hstatic⟩

/-- After its first sweep the task has left no entry that is older than the ageing time and a period. -/
theorem AgeingSince.lt_of_mem {start period : Nat} (ha : b.AgeingSince start period)
    (he : e ∈ b.fdb.entries) (hdynamic : e.origin = .dynamic) (hfirst : start + period ≤ b.clock) :
    b.clock < e.lastSeen + b.fdb.ageing + period := by
  obtain ⟨timer, k₀, -, -, hpast, hahead⟩ := ha.due
  have hsome : 0 < k₀ := by
    rcases Nat.eq_zero_or_pos k₀ with rfl | hpos
    · rw [Nat.zero_add, Nat.one_mul] at hahead
      omega
    · exact hpos
  have hlast := ha.swept e he k₀ hsome hpast hdynamic
  rw [Nat.succ_mul] at hahead
  omega

/-- Ageing is never early, and late by less than a period. The task is woken a period after its start, and
then period by period, by a timer that waits as long as it is set to. A sleep removes the dynamic entries
that a sweep of it finds refreshed longer ago than the ageing time, and nothing else. Once a period has
passed since the task was started, each dynamic entry has been refreshed less than the ageing time and a
period ago. Static entries stay. The period is half the ageing time, or more for a very short one. -/
theorem ages_on_time {config : BridgeConfig} {network : Network}
    (hb : Bridge.create config network = .ok b) {before during : List Event}
    (htime : ∀ ev ∈ before, ev.KeepsTime) (hidle : (b.run before).nextSweep = none)
    (hwaking : ∀ ev ∈ during, ev.IsWaking) (timer : Timer) :
    let start := (b.run before).clock
    let period := max (config.ageingNs / 2) minSweepPeriod
    let events := before ++ .perform (.startAgeing (some timer)) trivial :: during
    let c := b.run events
    let last := Moment.lastRefresh? (b.history events)
    timer.Keeps period → c.clock < UInt64.size →
    (∀ ms, c.clock + ms * 1000000 < UInt64.size → ∀ e, e ∈ (c.sleep ms).fdb.entries ↔
      e ∈ c.fdb.entries ∧ (e.origin = .dynamic → ∀ t, last e.key = some t →
        ∀ k, c.clock < start + k * period → start + k * period ≤ c.clock + ms * 1000000 →
          start + k * period ≤ t + config.ageingNs)) ∧
    (∀ e ∈ c.fdb.entries, e.origin = .dynamic → ∃ t, last e.key = some t ∧ t ≤ c.clock ∧
      (start + period ≤ c.clock → c.clock < t + (config.ageingNs + period))) ∧
    ∀ e ∈ (b.run before).fdb.entries, e.origin ≠ .dynamic → e ∈ c.fdb.entries := by
  intro start period events c last hkeeps hclock
  have hageing : ∀ events, (b.run events).fdb.ageing = config.ageingNs := by
    intro events
    rw [ageing_run, create_eq_ok hb]
  have hperiod : timer.wait (b.run before).sweepPeriod = period := by
    unfold sweepPeriod
    rw [hageing]
    exact hkeeps
  have hrun : c = (((b.run before).startAgeing (some timer)).1).run during := run_append b before _
  have hstarted : ((b.run before).startAgeing (some timer)).1.Reachable :=
    ((Reachable.create hb).run before).next (.perform (.startAgeing (some timer)) trivial)
  have hclock' : (((b.run before).startAgeing (some timer)).1.run during).clock < UInt64.size :=
    hrun ▸ hclock
  obtain ⟨ha, hstay⟩ := (AgeingSince.start hidle timer).run hstarted hwaking hclock'
  rw [← hrun, hperiod] at ha
  rw [← hrun, startAgeing_of_idle hidle] at hstay
  have hkeepsTime : ∀ ev ∈ events, ev.KeepsTime := by
    intro ev hev
    rcases List.mem_append.1 hev with hev | hev
    · exact htime ev hev
    · rcases List.mem_cons.1 hev with rfl | hev
      · exact trivial
      · exact (hwaking ev hev).keepsTime
  have hrefreshed := refreshed_run hb events hkeepsTime hclock
  refine ⟨?_, ?_, hstay⟩
  · intro ms hfinish e
    rw [ha.mem_sleep hfinish, hageing, and_congr_right_iff]
    intro he
    constructor
    · intro hlasts hdynamic t ht k hlater hle
      have hlast := (hrefreshed e he hdynamic).1
      cases hlast.symm.trans ht
      exact hlasts k hlater hle hdynamic
    · intro hall k hlater hle hdynamic
      exact hall hdynamic _ (hrefreshed e he hdynamic).1 k hlater hle
  · intro e he hdynamic
    obtain ⟨hlast, hpast⟩ := hrefreshed e he hdynamic
    refine ⟨e.lastSeen, hlast, hpast, fun hfirst => ?_⟩
    have hrecent := ha.lt_of_mem he hdynamic hfirst
    rw [hageing] at hrecent
    omega

/-- One station is heard 20 s before the task starts and one as it starts. The sweep 300 s after the start,
at the very end of a sleep, removes the first one, which is idle for 320 s, and keeps the second, which
is idle for just the ageing time. The timer could wait for thirty years. -/
theorem ages_on_time_boundary :
    let hello (n : UInt8) := Frame.ethernet Mac.broadcast ⟨2, 0, 0, 0, 0, n⟩ EtherType.ipv4 []
    let key (n : UInt8) := Key.mac Vid.zero ⟨2, 0, 0, 0, 0, n⟩
    let heard (n : UInt8) (t : Nat) : Entry := ⟨key n, .dynamic, PortSet.singleton 1, t⟩
    let fixed : Entry := ⟨key 13, .user, PortSet.singleton 1, 20000000000⟩
    let before : List Event := [.request (.portAdd "eth0" {}), .receive ⟨1, 1⟩ (hello 11),
      .perform (.sleep 20000) trivial, .receive ⟨1, 1⟩ (hello 12),
      .request (.fdbAdd (key 13) ["eth0"] .user)]
    let timer : Timer := { longest := some 946080000000000000 }
    let during : List Event := [.receive ⟨1, 1⟩ (hello 14), .perform (.sleep 160000) trivial]
    let events := before ++ .perform (.startAgeing (some timer)) trivial :: during
    let last := Moment.lastRefresh? ((beside ["eth0"]).history events)
    ((beside ["eth0"]).run before).nextSweep = none ∧ (∀ ev ∈ during, ev.IsWaking) ∧
      timer.Keeps 150000000000 ∧
      heard 11 0 ∉ (((beside ["eth0"]).run events).sleep 140000).fdb.entries ∧
      heard 12 20000000000 ∈ (((beside ["eth0"]).run events).sleep 140000).fdb.entries ∧
      fixed ∈ ((beside ["eth0"]).run events).fdb.entries ∧
      ∀ e ∈ ((beside ["eth0"]).run events).fdb.entries, e.origin = .dynamic →
        ∃ t, last e.key = some t ∧ 180000000000 < t + 450000000000 := by
  intro hello key heard fixed before timer during
  dsimp only
  have htime : ∀ ev ∈ before, ev.KeepsTime := by
    simp [before, Event.KeepsTime]
  have hwaking : ∀ ev ∈ during, ev.IsWaking := by
    simp [during, Event.IsWaking]
  have hkeeps : timer.Keeps 150000000000 := by
    rw [Timer.keeps_iff]
    rintro most ⟨⟩
    decide
  have hidle : ((beside ["eth0"]).run before).nextSweep = none := by decide +kernel
  have hstart : ((beside ["eth0"]).run before).clock = 20000000000 := by decide +kernel
  have hclock : ((beside ["eth0"]).run
      (before ++ .perform (.startAgeing (some timer)) trivial :: during)).clock = 180000000000 := by
    decide +kernel
  have hlast : Moment.lastRefresh? ((beside ["eth0"]).history
      (before ++ .perform (.startAgeing (some timer)) trivial :: during)) (key 11) = some 0 := by
    decide +kernel
  have hlater : Moment.lastRefresh? ((beside ["eth0"]).history
      (before ++ .perform (.startAgeing (some timer)) trivial :: during)) (key 12) = some 20000000000 := by
    decide +kernel
  have hfixed : fixed ∈ ((beside ["eth0"]).run before).fdb.entries := by decide +kernel
  have hheard : heard 12 20000000000 ∈ ((beside ["eth0"]).run
      (before ++ .perform (.startAgeing (some timer)) trivial :: during)).fdb.entries := by decide +kernel
  have hperiod : max (300000000000 / 2) minSweepPeriod = 150000000000 := by decide
  have hageing : ({} : BridgeConfig).ageingNs = 300000000000 := by decide
  have hsize : UInt64.size = 18446744073709551616 := rfl
  obtain ⟨hsleep, hrecent, hstay⟩ := ages_on_time (create_beside ["eth0"]) htime hidle hwaking timer
    (by rwa [hageing, hperiod]) (by omega)
  simp only [hageing, hperiod, hstart, hclock] at hsleep hrecent
  refine ⟨hidle, hwaking, hkeeps, ?_, ?_, hstay fixed hfixed (by decide), ?_⟩
  · intro hmem
    have hidling := ((hsleep 140000 (by omega) _).1 hmem).2 rfl 0 hlast 2
    omega
  · refine (hsleep 140000 (by omega) _).2 ⟨hheard, fun _ t ht k _ hle => ?_⟩
    cases hlater.symm.trans ht
    omega
  · intro e he hdynamic
    obtain ⟨t, ht, -, hlate⟩ := hrecent e he hdynamic
    exact ⟨t, ht, hlate (by omega)⟩

/-- An ageing time of a hundred years, of which half passes between two sweeps: the second one still finds the
station idle for no longer than that. -/
example :
    let year := 365 * 86400
    let config : BridgeConfig := { ageingSecs := 100 * year }
    let hello := Frame.ethernet Mac.broadcast ⟨2, 0, 0, 0, 0, 9⟩ EtherType.ipv4 []
    let start : Bridge := { beside ["eth0"] with config, fdb := { ageing := config.ageingNs } }
    let b := start.run [.request (.portAdd "eth0" {}), .perform (.startAgeing (some {})) trivial,
      .receive ⟨1, 1⟩ hello]
    Bridge.create config (beside ["eth0"]).network = .ok start ∧
      [100, 149, 150].map (fun years => (b.sleep (years * year * 1000)).fdb.size) = [1, 1, 0] :=
  ⟨rfl, by decide +kernel⟩

end Bridge

end VlanBridge
