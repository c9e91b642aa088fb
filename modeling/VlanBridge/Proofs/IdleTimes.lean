import Mathlib.Data.Rat.Floor
import VlanBridge.Proofs.AgeingTask
/-!
# Idle times without bounds

The forwarding table keeps points of time in 64 bits: an earlier one than its making counts as zero, a
later one than fits as the largest, an idle time is never negative, and a length of time is cut off like a
point of time. A sweep comes out as if nothing were cut off (`sweep_exact`), as long as its own point of
time fits: an ageing time that does not fit is longer than any idle time that can be seen.
-/

namespace VlanBridge

open VlanBridge.Net

namespace Entry

/-- How long ago the address was last seen, without bounds. A point of time before the table was made counts
as the one when it was made; the address may be seen only later. -/
def idleFor (e : Entry) (now : Int) : Int := max now 0 - e.lastSeen

/-- The entry is dynamic and has been idle for more than so many seconds. -/
def Overdue (e : Entry) (secs : Nat) (now : Int) : Prop :=
  e.origin = .dynamic ∧ secs * 1000000000 < e.idleFor now

instance (e : Entry) (secs : Nat) (now : Int) : Decidable (e.Overdue secs now) :=
  inferInstanceAs (Decidable (_ ∧ _))

variable {e : Entry} {secs : Nat} {now : Int}

/-! ### One entry -/

theorem idle_stamp (hnow : now < 2 ^ 64) : (e.idle (stamp now) : Int) = max (e.idleFor now) 0 := by
  have hmax : maxStamp = 2 ^ 64 - 1 := rfl
  unfold idle idleFor stamp
  omega

theorem isAged_iff (hnow : now < 2 ^ 64) :
    e.isAged (secs * 1000000000) (stamp now) = true ↔ e.Overdue secs now := by
  have hmax : maxStamp = 2 ^ 64 - 1 := rfl
  have hidle := idle_stamp (e := e) hnow
  -- what is idle at all has been so for less than the longest length of time
  have hfits : e.idle (stamp now) ≤ maxStamp :=
    Nat.le_trans (Nat.sub_le _ _) (Nat.min_le_right _ _)
  unfold isAged Overdue
  rw [Bool.and_eq_true, beq_iff_eq, decide_eq_true_eq, and_congr_right_iff]
  intro _
  omega

/-- A record shows the whole milliseconds of the idle time. -/
theorem record_idleMs (hnow : now < 2 ^ 64) :
    ((e.record (stamp now)).idleMs : Int) = ⌊((max (e.idleFor now) 0 : Int) : ℚ) / 1000000⌋ := by
  have hidle := idle_stamp (e := e) hnow
  have hfloor := Rat.floor_intCast_div_natCast (max (e.idleFor now) 0) 1000000
  rw [Nat.cast_ofNat] at hfloor
  rw [hfloor, ← hidle]
  rfl

end Entry

namespace Fdb

variable {t : Fdb} {secs : Nat} {now : Int}

/-! ### The table -/

theorem flushed?_aged (hageing : t.ageing = secs * 1000000000) (hnow : now < 2 ^ 64) (e : Entry) :
    t.flushed? FlushFilter.aged none (stamp now) e = if e.Overdue secs now then none else some e := by
  rw [flushed?_none, covered_aged, hageing]
  exact if_congr (Entry.isAged_iff hnow) rfl rfl

theorem sweep_eq (hageing : t.ageing = secs * 1000000000) (hnow : now < 2 ^ 64) :
    t.sweep now = ({ t with entries := t.entries.filter fun e => ¬ e.Overdue secs now },
      t.entries.filter fun e => e.Overdue secs now) := by
  have hleft : t.entries.filterMap (t.flushed? FlushFilter.aged none (stamp now)) =
      t.entries.filter fun e => ¬ e.Overdue secs now := by
    rw [← List.filterMap_eq_filter]
    refine List.filterMap_congr fun e _ => ?_
    rw [flushed?_aged hageing hnow]
    by_cases h : e.Overdue secs now <;> simp [Option.guard, h]
  have hgone : (t.entries.filter fun e => (t.flushed? FlushFilter.aged none (stamp now) e).isNone) =
      t.entries.filter fun e => e.Overdue secs now := by
    refine List.filter_congr fun e _ => ?_
    rw [flushed?_aged hageing hnow]
    by_cases h : e.Overdue secs now <;> simp [h]
  unfold sweep flushPort
  simp only [hleft, hgone, Option.isSome_none, Bool.false_eq_true, if_false]

end Fdb

theorem Counters.add_add (cs : Counters) (c : Counter) (n m : UInt64) :
    (cs.add c n).add c m = cs.add c (n + m) := by
  cases c <;> simp only [add, UInt64.add_assoc]

namespace Learning

variable {s : Learning} {secs : Nat} {now : Int}

/-! ### Sweeps in turn -/

theorem sweep_of_ageing (hageing : s.fdb.ageing = secs * 1000000000) (hnow : now < 2 ^ 64) :
    (s.sweep now).1.fdb =
      { s.fdb with entries := s.fdb.entries.filter fun e => ¬ e.Overdue secs now } ∧
    (s.sweep now).2 = s.fdb.entries.filter (fun e => e.Overdue secs now) ∧
    (s.sweep now).1.counters =
      s.counters.add .aged (UInt64.ofNat (s.fdb.size - (s.sweep now).1.fdb.size)) := by
  have htable := Fdb.sweep_eq hageing hnow
  have hsize := s.fdb.size_flushPort FlushFilter.aged none now
  have hcount : s.fdb.size - (s.sweep now).1.fdb.size = (s.sweep now).2.length :=
    Nat.sub_eq_of_eq_add ((Nat.add_comm ..).trans hsize).symm
  refine ⟨congrArg Prod.fst htable, congrArg Prod.snd htable, ?_⟩
  rw [hcount]
  rfl

/-- The table at work after sweeps at some points of time, in any order. -/
def sweepAll (s : Learning) (nows : List Int) : Learning :=
  nows.foldl (fun s now => (s.sweep now).1) s

/-- Sweeps in turn leave what each of them would leave. -/
theorem sweepAll_of_ageing (hageing : s.fdb.ageing = secs * 1000000000) {nows : List Int}
    (hnows : ∀ now ∈ nows, now < 2 ^ 64) :
    (s.sweepAll nows).fdb =
      { s.fdb with entries := s.fdb.entries.filter fun e => ∀ now ∈ nows, ¬ e.Overdue secs now } ∧
    (s.sweepAll nows).counters =
      s.counters.add .aged (UInt64.ofNat (s.fdb.size - (s.sweepAll nows).fdb.size)) := by
  induction nows generalizing s with
  | nil =>
    refine ⟨?_, ?_⟩
    · simp [sweepAll]
    · rw [sweepAll, List.foldl_nil, Nat.sub_self]
      exact (Counters.ext_get fun c => by simp [Counters.get_add]).symm
  | cons now nows ih =>
    obtain ⟨htable, -, hcounters⟩ := sweep_of_ageing hageing (hnows now List.mem_cons_self)
    have hlater : (s.sweep now).1.fdb.ageing = secs * 1000000000 := by
      rw [htable]
      exact hageing
    obtain ⟨hrest, hmore⟩ := ih hlater fun n hn => hnows n (List.mem_cons_of_mem _ hn)
    have hall : s.sweepAll (now :: nows) = (s.sweep now).1.sweepAll nows := rfl
    have hfdb : ((s.sweep now).1.sweepAll nows).fdb = { s.fdb with
        entries := s.fdb.entries.filter fun e => ∀ n ∈ now :: nows, ¬ e.Overdue secs n } := by
      rw [hrest, htable, List.filter_filter]
      simp only [List.mem_cons, forall_eq_or_imp, Bool.decide_and, Bool.and_comm]
    refine ⟨hfdb, ?_⟩
    -- what the first sweep removes and what the later ones remove add up
    have hfirst : (s.sweep now).1.fdb.size ≤ s.fdb.size := by
      rw [htable]
      exact List.length_filter_le ..
    have hthen : ((s.sweep now).1.sweepAll nows).fdb.size ≤ (s.sweep now).1.fdb.size := by
      rw [hrest]
      exact List.length_filter_le ..
    rw [hall, hmore, hcounters, Counters.add_add, ← UInt64.ofNat_add]
    congr 2
    omega

/-- A sweep removes just the dynamic entries whose exact idle time is longer than the ageing time of the
settings, however long that is, leaves all others as they are, and counts what it removes. Several sweeps,
in whatever order of time, remove what any of them would. The records show the exact idle time in whole
milliseconds. -/
theorem sweep_exact {config : BridgeConfig} (hageing : s.fdb.ageing = config.ageingNs)
    (hnow : now < 2 ^ 64) :
    let overdue (now : Int) (e : Entry) : Prop := e.Overdue config.ageingSecs now
    let swept := s.sweep now
    swept.1.fdb = { s.fdb with entries := s.fdb.entries.filter fun e => ¬ overdue now e } ∧
    swept.2 = s.fdb.entries.filter (fun e => overdue now e) ∧
    swept.1.counters = s.counters.add .aged (UInt64.ofNat swept.2.length) ∧
    (∀ nows : List Int, (∀ n ∈ nows, n < 2 ^ 64) →
      (s.sweepAll nows).fdb =
        { s.fdb with entries := s.fdb.entries.filter fun e => ∀ n ∈ nows, ¬ overdue n e } ∧
      (s.sweepAll nows).counters =
        s.counters.add .aged (UInt64.ofNat (s.fdb.size - (s.sweepAll nows).fdb.size))) ∧
    s.fdb.records now = s.fdb.entries.map fun e => {
      key := e.key
      ports := e.ports
      origin := e.origin
      idleMs := ⌊((max (e.idleFor now) 0 : Int) : ℚ) / 1000000⌋.toNat } := by
  obtain ⟨htable, hgone, -⟩ := sweep_of_ageing hageing hnow
  refine ⟨htable, hgone, rfl, fun nows hnows => sweepAll_of_ageing hageing hnows, ?_⟩
  refine List.map_congr_left fun e _ => ?_
  rw [← Entry.record_idleMs hnow, Int.toNat_natCast]
  rfl

/-- With an ageing time of one second, a sweep one second and one nanosecond after the table was made removes
the station that was heard first, and keeps one that was heard a nanosecond later, one that is heard only
later on, and a static entry. With the longest ageing time the last sweep of all removes nothing. -/
theorem sweep_exact_second :
    let key (n : UInt8) := Key.mac Vid.zero ⟨2, 0, 0, 0, 0, n⟩
    let heard (n : UInt8) (t : Nat) : Entry := ⟨key n, .dynamic, PortSet.singleton 1, t⟩
    let fixed : Entry := ⟨key 4, .user, PortSet.singleton 2, 0⟩
    let entries := [heard 1 0, heard 2 1, heard 3 2000000000, fixed]
    let s : Learning := { fdb := { entries, ageing := 1000000000 } }
    let long : Learning := { fdb := { entries, ageing := (2 ^ 64 - 1) * 1000000000 } }
    (s.sweep 1000000001).1.fdb.entries = [heard 2 1, heard 3 2000000000, fixed] ∧
      (s.sweep 1000000001).1.counters = { aged := 1 } ∧
      (s.sweepAll [-7, 1000000001, 1000000000, 1000000001]).counters = { aged := 1 } ∧
      (s.fdb.records 1000000001).map (·.idleMs) = [1000, 1000, 0, 1000] ∧
      (long.sweep (2 ^ 64 - 1)).1.fdb = long.fdb := by
  intro key heard fixed entries s long
  have hsecond : s.fdb.ageing = ({ ageingSecs := 1 } : BridgeConfig).ageingNs := rfl
  have hlong : long.fdb.ageing = ({ ageingSecs := 2 ^ 64 - 1 } : BridgeConfig).ageingNs := rfl
  have hnow : (1000000001 : Int) < 2 ^ 64 := by decide
  have hend : (2 ^ 64 - 1 : Int) < 2 ^ 64 := by decide
  obtain ⟨hleft, -, hcount, hturns, hrecords⟩ := sweep_exact hsecond hnow
  obtain ⟨hlast, -⟩ := sweep_exact hlong hend
  obtain ⟨-, hcounts⟩ := hturns [-7, 1000000001, 1000000000, 1000000001] (by decide)
  refine ⟨?_, ?_, ?_, ?_, ?_⟩
  · rw [hleft]
    decide +kernel
  · exact hcount.trans (by decide +kernel)
  · exact hcounts.trans (by decide +kernel)
  · rw [hrecords]
    decide +kernel
  · rw [hlast]
    decide +kernel

end Learning

end VlanBridge
