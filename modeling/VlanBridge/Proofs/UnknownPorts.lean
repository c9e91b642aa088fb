import VlanBridge.Proofs.Flushes
import VlanBridge.Proofs.Population
import VlanBridge.Proofs.Reversals
/-!
# Flushes by the number of no port

The number in a filter is compared with the ports of an entry only after the entry has met all other
criteria (`Fdb.MetBy`). A number of an empty slot is in no entry that is compared, so the flush removes
nothing. A number beyond the slots has no answer: it is a fault, but only if there is an entry to compare
it with (`flush_eq_error_iff`).
-/

namespace VlanBridge

open VlanBridge.Net

namespace Fdb

variable {t : Fdb} {f : FlushFilter} {now : Int} {n : Nat}

/-- An entry meets the criteria of a filter, so its ports are compared with the filter's port. -/
def MetBy (t : Fdb) (f : FlushFilter) (now : Int) : Prop :=
  ∃ e ∈ t.entries, f.Meets t.ageing (stamp now) e

theorem any_covered_iff :
    t.entries.any (·.covered f t.ageing (stamp now)) = true ↔ t.MetBy f now := by
  rw [List.any_eq_true]
  exact exists_congr fun e => and_congr_right fun _ => FlushFilter.meets_iff

theorem flush_of_maxPorts_le (hn : f.port = some n) (hle : maxPorts ≤ n) (hmet : t.MetBy f now) :
    t.flush f now = .error (.portOutOfRange n) := by
  unfold flush
  simp only [hn, PortIndex.ofNat?_eq_none.2 hle, any_covered_iff.2 hmet, if_true]

theorem flush_of_not_metBy (hn : f.port = some n) (hle : maxPorts ≤ n) (hmet : ¬ t.MetBy f now) :
    t.flush f now = .ok (t, []) := by
  have hany : ¬ t.entries.any (·.covered f t.ageing (stamp now)) = true :=
    fun h => hmet (any_covered_iff.1 h)
  unfold flush
  simp only [hn, PortIndex.ofNat?_eq_none.2 hle]
  rw [if_neg hany]

theorem flush_of_inRange (hrange : f.InRange) : ∃ gone, t.flush f now = .ok gone := by
  obtain ⟨port, -, hflush⟩ := flush_eq_flushPort hrange
  exact ⟨_, hflush t now⟩

/-- A flush fails just if an entry has to be compared with a number that is beyond the slots. -/
theorem flush_eq_error_iff {e : BridgeError} : t.flush f now = .error e ↔
    t.MetBy f now ∧ ∃ n, f.port = some n ∧ maxPorts ≤ n ∧ e = .portOutOfRange n := by
  constructor
  · intro h
    by_cases hrange : f.InRange
    · obtain ⟨gone, hok⟩ : ∃ gone, t.flush f now = .ok gone := flush_of_inRange hrange
      cases hok.symm.trans h
    · simp only [FlushFilter.InRange, not_forall, Nat.not_lt] at hrange
      obtain ⟨n, hn, hle⟩ := hrange
      by_cases hmet : t.MetBy f now
      · cases (flush_of_maxPorts_le hn hle hmet).symm.trans h
        exact ⟨hmet, n, hn, hle, rfl⟩
      · cases (flush_of_not_metBy hn hle hmet).symm.trans h
  · rintro ⟨hmet, n, hn, hle, rfl⟩
    exact flush_of_maxPorts_le hn hle hmet

end Fdb

namespace Bridge

variable {b : Bridge} {f : FlushFilter} {n : Nat}

theorem fdbFlush_eq_error_iff {c : Bridge} {e : BridgeError} : b.fdbFlush f = (c, .error e) ↔
    c = b ∧ b.fdb.flush f b.clock = .error e := by
  unfold fdbFlush Learning.flush
  cases b.fdb.flush f b.clock with
  | error e' =>
    constructor
    · intro h
      cases h
      exact ⟨rfl, rfl⟩
    · rintro ⟨rfl, h⟩
      cases h
      rfl
  | ok flushed => exact iff_of_false nofun nofun

/-- A flush that finds nothing to remove runs the waiting releases, as every flush does. -/
theorem fdbFlush_of_nothing (h : b.fdb.flush f b.clock = .ok (b.fdb, [])) :
    b.fdbFlush f = (b.reclaim.1, .ok 0) := by
  have hsame : b.settle ((b.toLearning.without b.fdb []).tally .flushed 0) = b.reclaim.1 := by
    rw [Learning.tally_zero, Learning.without_nil]
    rfl
  unfold fdbFlush Learning.flush
  rw [h]
  exact congrArg (·, _) hsame

/-- The number in a filter is not that of a port. -/
def NamesNoPort (b : Bridge) (n : Nat) : Prop := ∀ i, b.ports.Holds i → i.val ≠ n

theorem namesNoPort_of_empty {i : PortIndex} (hi : b.ports.port? i = none) : b.NamesNoPort i.val := by
  intro j hj he
  obtain ⟨p, hp⟩ := PortTable.holds_iff.1 hj
  rw [Fin.ext he, hi] at hp
  cases hp

theorem namesNoPort_of_maxPorts_le (hn : maxPorts ≤ n) : b.NamesNoPort n :=
  fun i _ he => absurd i.isLt (Nat.not_lt.2 (he ▸ hn))

/-- No entry sends to an empty slot, unless the settings keep the entries of deleted ports. -/
theorem Integrity.flush_nothing (hi : b.Integrity) (hconfig : b.config.flushOnPortDel = true)
    (hn : f.port = some n) (hnone : b.NamesNoPort n) (hanswers : n < maxPorts ∨ ¬ b.fdb.MetBy f b.clock) :
    b.fdb.flush f b.clock = .ok (b.fdb, []) := by
  by_cases hlt : n < maxPorts
  · have hmiss : ∀ e ∈ b.fdb.entries,
        b.fdb.isHit f (some ⟨n, hlt⟩) (stamp b.clock) e = false := by
      intro e he
      have hout : ¬ (⟨n, hlt⟩ : PortIndex) ∈ e.ports :=
        fun hmem => hnone _ (hi.entryPorts e he (Or.inr hconfig) _ hmem) rfl
      simp only [Fdb.isHit, Entry.sendsTo, hout, decide_false, Bool.and_false]
    have hslot := PortIndex.ofNat?_val ⟨n, hlt⟩
    unfold Fdb.flush
    simp only [hn]
    rw [hslot]
    exact congrArg Except.ok (Fdb.flushPort_of_not_hit hmiss)
  · exact Fdb.flush_of_not_metBy hn (Nat.le_of_not_lt hlt) (hanswers.resolve_left hlt)

end Bridge

namespace Transit

variable {s : Transit}

/-- A flush answers how many entries it has removed, unless an entry meets its filter and the filter's port
is beyond the slots; this is a fault, which finds the bridge as it was. Where the flush does answer, and its
port is not installed, it has removed nothing and the table is as it was. -/
theorem flush_answers_unless_compared (hs : s.Reachable) (f : FlushFilter) :
    let b := s.bridge
    ((∃ k, (b.fdbFlush f).2 = .ok k) ↔ f.InRange ∨ ¬ b.fdb.MetBy f b.clock) ∧
    (∀ k, (b.fdbFlush f).2 = .ok k → (b.fdbFlush f).1.fdb.size + k = b.fdb.size) ∧
    (∀ n ∈ f.port, maxPorts ≤ n → b.fdb.MetBy f b.clock →
      b.fdbFlush f = (b, .error (.portOutOfRange n))) ∧
    ∀ n ∈ f.port, b.NamesNoPort n → b.config.flushOnPortDel = true →
      n < maxPorts ∨ ¬ b.fdb.MetBy f b.clock →
      b.fdbFlush f = (b.reclaim.1, .ok 0) ∧ (b.fdbFlush f).1.fdb = b.fdb := by
  intro b
  have hfault : ∀ n ∈ f.port, maxPorts ≤ n → b.fdb.MetBy f b.clock →
      b.fdbFlush f = (b, .error (.portOutOfRange n)) := fun n hn hle hmet =>
    Bridge.fdbFlush_eq_error_iff.2 ⟨rfl, Fdb.flush_of_maxPorts_le hn hle hmet⟩
  refine ⟨?_, fun k hk => Bridge.size_fdbFlush hk, hfault, ?_⟩
  · constructor
    · rintro ⟨k, hk⟩
      by_contra hnot
      obtain ⟨hrange, hmet⟩ := not_or.1 hnot
      simp only [FlushFilter.InRange, not_forall, Nat.not_lt] at hrange
      obtain ⟨n, hn, hle⟩ := hrange
      rw [hfault n hn hle (not_not.1 hmet)] at hk
      cases hk
    · intro h
      cases hflush : b.fdbFlush f with
      | mk c answer =>
        cases answer with
        | ok k => exact ⟨k, rfl⟩
        | error e =>
          obtain ⟨-, herror⟩ := Bridge.fdbFlush_eq_error_iff.1 hflush
          obtain ⟨hmet, n, hn, hle, -⟩ := Fdb.flush_eq_error_iff.1 herror
          rcases h with hrange | hnot
          · exact absurd (hrange n hn) (Nat.not_lt.2 hle)
          · exact absurd hmet hnot
  · intro n hn hnone hconfig hanswers
    have hnothing := Bridge.fdbFlush_of_nothing (hs.integrity.flush_nothing hconfig hn hnone hanswers)
    refine ⟨hnothing, ?_⟩
    rw [hnothing]
    exact (Bridge.resting_reclaim b).fdb

/-- A station is heard at port 1 and a static entry sends to port 2, while a frame is in flight. No port has
the numbers 7 and 300. -/
theorem flush_answers_unless_compared_two :
    let start : Transit := { bridge := Bridge.beside ["eth0", "eth1"] }
    let hello := Frame.ethernet Mac.broadcast ⟨2, 0, 0, 0, 0, 9⟩ EtherType.ipv4 []
    let s := start.run [.event (.request (.portAdd "eth0" {})), .event (.request (.portAdd "eth1" {})),
      .event (.receive ⟨1, 1⟩ hello),
      .event (.request (.fdbAdd (.mac Vid.zero ⟨2, 0, 0, 0, 0, 8⟩) ["eth1"] .user)), .pin]
    let b := s.bridge
    let other : FlushFilter := { port := some 300, vid := some ⟨9, by decide⟩ }
    s.Reachable ∧ b.fdb.size = 2 ∧
      (∃ k, (b.fdbFlush (.onPort 2)).2 = .ok k ∧ (b.fdbFlush (.onPort 2)).1.fdb.size + k = 2) ∧
      b.NamesNoPort 7 ∧ b.fdbFlush (.onPort 7) = (b.reclaim.1, .ok 0) ∧
      (b.fdbFlush (.onPort 7)).1.fdb = b.fdb ∧
      b.NamesNoPort 300 ∧ b.fdbFlush other = (b.reclaim.1, .ok 0) ∧
      (b.fdbFlush other).1.fdb = b.fdb := by
  intro start hello s b other
  have hs : s.Reachable := (Reachable.create (Bridge.create_beside _)).run _
  obtain ⟨hsize, hconfig, hslot, hunmet⟩ : b.fdb.size = 2 ∧ b.config.flushOnPortDel = true ∧
      b.ports.port? 7 = none ∧
      b.fdb.entries.any (·.covered other b.fdb.ageing (stamp b.clock)) = false := by decide +kernel
  clear_value s
  have hseven : b.NamesNoPort 7 := Bridge.namesNoPort_of_empty hslot
  have hmany : b.NamesNoPort 300 := Bridge.namesNoPort_of_maxPorts_le (by decide)
  have hunmet : ¬ b.fdb.MetBy other b.clock :=
    fun h => Bool.eq_false_iff.1 hunmet (Fdb.any_covered_iff.2 h)
  obtain ⟨hanswers, hcount, -, -⟩ := flush_answers_unless_compared hs (.onPort 2)
  obtain ⟨-, -, -, hempty⟩ := flush_answers_unless_compared hs (.onPort 7)
  obtain ⟨-, -, -, hbeyond⟩ := flush_answers_unless_compared hs other
  have hrange : (FlushFilter.onPort 2).InRange := by
    rintro n ⟨⟩
    decide
  obtain ⟨k, hk⟩ := hanswers.2 (Or.inl hrange)
  obtain ⟨hnothing, hsame⟩ := hempty 7 rfl hseven hconfig (Or.inl (by decide))
  obtain ⟨hnothing', hsame'⟩ := hbeyond 300 rfl hmany hconfig (Or.inr hunmet)
  exact ⟨hs, hsize, ⟨k, hk, (hcount k hk).trans hsize⟩, hseven, hnothing, hsame, hmany, hnothing',
    hsame'⟩

/-- A static entry is all that it takes: no port has the number 256, and a flush by it is a fault. -/
theorem flush_faults_when_compared :
    let start : Transit := { bridge := Bridge.beside ["eth0"] }
    let s := start.run [.event (.request (.portAdd "eth0" {})),
      .event (.request (.fdbAdd (.mac Vid.zero ⟨2, 0, 0, 0, 0, 9⟩) ["eth0"] .user))]
    s.Reachable ∧ s.bridge.config.flushOnPortDel = true ∧ s.bridge.NamesNoPort 256 ∧
      (s.bridge.fdbFlush (.onPort 256)).2 = .error (.portOutOfRange 256) ∧
      ¬ ∃ k, (s.bridge.fdbFlush (.onPort 256)).2 = .ok k := by
  intro start s
  have hs : s.Reachable := (Reachable.create (Bridge.create_beside _)).run _
  obtain ⟨hconfig, hfault⟩ : s.bridge.config.flushOnPortDel = true ∧
      (s.bridge.fdbFlush (.onPort 256)).2 = .error (.portOutOfRange 256) := by decide +kernel
  refine ⟨hs, hconfig, Bridge.namesNoPort_of_maxPorts_le (Nat.le_refl _), hfault, ?_⟩
  rintro ⟨k, hk⟩
  cases hfault.symm.trans hk

end Transit

end VlanBridge
