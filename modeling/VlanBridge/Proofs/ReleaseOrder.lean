import Mathlib.Algebra.GroupWithZero.Nat
import Mathlib.Data.List.Chain
import Mathlib.Logic.Function.Iterate
import VlanBridge.Proofs.Reclamation
/-!
# Every release runs once, in order

A reclaimer's queue is split by an epoch test, and the releases that ran may queue others before the
number of waiting ones has been lowered. A `Chronicle` follows a reclaimer at that grain: the number is
kept beside the queue, as a counter that only operations change, releases run one by one, and everything
that was retired and everything that ran is written down.

The epochs in the queue never descend, so the releases that are ready stand in front of those that are
not (`ready_append_waiting`). From that and from what a row of releases does (`foldl_release`) follows
that what was retired is what has run and then what waits (`releases_run_once`).
-/

namespace VlanBridge

/-- A reclaimer with the number of its waiting releases, the guards that are held, and its past. -/
structure Chronicle (ρ : Type) where
  reclaimer : Reclaimer ρ := {}
  /-- How many releases wait, counted by the operations that queue and run them. -/
  waiting : Nat := 0
  held : List Guard := []
  retired : List ρ := []
  ran : List ρ := []
  /-- What the reclaims have answered: each the number of releases that it ran. -/
  answers : List Nat := []
  deriving DecidableEq

namespace Chronicle

variable {ρ : Type}

def pin (c : Chronicle ρ) : Chronicle ρ :=
  { c with reclaimer := c.reclaimer.pin.1, held := c.reclaimer.pin.2 :: c.held }

def drop (c : Chronicle ρ) (g : Guard) : Chronicle ρ :=
  { c with reclaimer := c.reclaimer.unpin g, held := c.held.erase g }

def retire (c : Chronicle ρ) (a : ρ) : Chronicle ρ :=
  { c with
    reclaimer := c.reclaimer.retire a
    waiting := c.waiting + 1
    retired := c.retired ++ [a] }

/-- Runs one release, which retires one by one those that `follow` gives. -/
def release (follow : ρ → List ρ) (c : Chronicle ρ) (a : ρ) : Chronicle ρ :=
  (follow a).foldl retire { c with ran := c.ran ++ [a] }

/-- Gives up at once if the counter is zero. Otherwise takes the ready releases out of the queue, runs
them, and only then subtracts their number. -/
def reclaim (follow : ρ → List ρ) (c : Chronicle ρ) : Chronicle ρ :=
  if c.waiting = 0 then { c with answers := c.answers ++ [0] }
  else
    let r := c.reclaimer.advance.advance
    let ready := r.queue.filter r.isReady
    let taken := { c with reclaimer := { r with queue := r.queue.filter fun q => !r.isReady q } }
    let c := (ready.map (·.release)).foldl (release follow) taken
    { c with waiting := c.waiting - ready.length, answers := c.answers ++ [ready.length] }

/-- The chronicles that come about from an unused reclaimer. -/
inductive Reachable (follow : ρ → List ρ) : Chronicle ρ → Prop where
  | start : Reachable follow {}
  | pin {c : Chronicle ρ} : Reachable follow c → Reachable follow c.pin
  | drop {c : Chronicle ρ} {g : Guard} :
      Reachable follow c → g ∈ c.held → Reachable follow (c.drop g)
  | retire {c : Chronicle ρ} (a : ρ) : Reachable follow c → Reachable follow (c.retire a)
  | reclaim {c : Chronicle ρ} : Reachable follow c → Reachable follow (c.reclaim follow)

variable {follow : ρ → List ρ} {c : Chronicle ρ}

/-! ### Running the releases that were taken out -/

/-- The past after some releases were retired; the rest of the chronicle is that of the reclaimer. -/
theorem foldl_retire (c : Chronicle ρ) (as : List ρ) :
    as.foldl retire c =
      { c with
        reclaimer := as.foldl Reclaimer.retire c.reclaimer
        waiting := c.waiting + as.length
        retired := c.retired ++ as } := by
  induction as generalizing c with
  | nil => simp
  | cons a as ih =>
    rw [List.foldl_cons, ih, List.foldl_cons]
    simp only [retire, List.append_assoc, List.singleton_append, List.length_cons]
    congr 1
    omega

theorem foldl_release (c : Chronicle ρ) (as : List ρ) :
    as.foldl (release follow) c =
      { c with
        reclaimer := (as.flatMap follow).foldl Reclaimer.retire c.reclaimer
        waiting := c.waiting + (as.flatMap follow).length
        retired := c.retired ++ as.flatMap follow
        ran := c.ran ++ as } := by
  induction as generalizing c with
  | nil => simp
  | cons a as ih =>
    rw [List.foldl_cons, ih, release, foldl_retire]
    simp only [List.flatMap_cons, List.foldl_append, List.length_append, List.append_assoc,
      List.singleton_append, Nat.add_assoc]

end Chronicle

/-! ### The queue is in the order of its epochs -/

namespace Reclaimer

variable {ρ : Type} {r : Reclaimer ρ} {guards : List Guard}

/-- The epochs in the queue never descend. -/
def Ascending (r : Reclaimer ρ) : Prop := r.queue.Pairwise fun p q => p.epoch ≤ q.epoch

/-- What a test takes out of a list stands in front if the test holds of all that is before it. -/
theorem filter_append_filter_not {α : Type} {p : α → Bool} {l : List α}
    (h : l.Pairwise fun a b => p b = true → p a = true) :
    l.filter p ++ l.filter (fun a => !p a) = l := by
  induction l with
  | nil => rfl
  | cons a l ih =>
    obtain ⟨hhead, htail⟩ := List.pairwise_cons.1 h
    cases ha : p a with
    | true => rw [List.filter_cons_of_pos ha, List.filter_cons_of_neg (by simp [ha]), List.cons_append,
        ih htail]
    | false =>
      have hnone : l.filter p = [] := by
        rw [List.filter_eq_nil_iff]
        intro b hb hp
        rw [hhead b hb hp] at ha
        exact Bool.noConfusion ha
      have hall : l.filter (fun a => !p a) = l := by
        have := ih htail
        rwa [hnone, List.nil_append] at this
      rw [List.filter_cons_of_neg (by simp [ha]), List.filter_cons_of_pos (by simp [ha]), hnone, hall,
        List.nil_append]

/-- The releases that are ready stand in front of those that are not. -/
theorem Ascending.ready_append_waiting (ha : r.Ascending) :
    r.queue.filter r.isReady ++ r.queue.filter (fun q => !r.isReady q) = r.queue := by
  refine filter_append_filter_not (ha.imp ?_)
  intro p q hle hq
  simp only [isReady, decide_eq_true_eq] at hq ⊢
  omega

theorem Ascending.advance (ha : r.Ascending) : r.advance.Ascending := by
  rw [Ascending, advance_queue]
  exact ha

/-- Taking out the ready releases cuts the queue in two. -/
theorem Ascending.collect (ha : r.Ascending) :
    r.collect.1.Ascending ∧
      r.collect.2 ++ r.collect.1.queue.map (·.release) = r.queue.map (·.release) := by
  unfold Reclaimer.collect
  by_cases he : r.queue.isEmpty = true
  · rw [if_pos he]
    exact ⟨ha, rfl⟩
  · have htwo := ha.advance.advance
    rw [if_neg he]
    refine ⟨List.Pairwise.sublist List.filter_sublist htwo, ?_⟩
    simp only
    rw [← List.map_append, htwo.ready_append_waiting, advance_queue, advance_queue]

theorem Ascending.foldl_retire (ha : r.Ascending) (hq : ∀ q ∈ r.queue, q.epoch ≤ r.epoch)
    (as : List ρ) : (as.foldl retire r).Ascending := by
  rw [Ascending, queue_foldl_retire, List.pairwise_append]
  refine ⟨ha, ?_, ?_⟩
  · rw [List.pairwise_map]
    exact List.pairwise_of_forall fun _ _ => Nat.le_refl _
  · intro p hp q hin
    obtain ⟨a, -, rfl⟩ := List.mem_map.1 hin
    exact hq p hp

end Reclaimer

/-! ### What holds of every chronicle -/

namespace Chronicle

variable {ρ : Type} {follow : ρ → List ρ} {c : Chronicle ρ}

/-- What was retired has run or waits, in the order in which it was retired, and the counter and the
answers count it. -/
structure Sound (c : Chronicle ρ) : Prop where
  tracks : c.reclaimer.Tracks c.held
  ascending : c.reclaimer.Ascending
  counted : c.waiting = c.reclaimer.pending
  retired : c.retired = c.ran ++ c.reclaimer.queue.map (·.release)
  answered : c.answers.sum = c.ran.length

theorem Sound.pin (hc : c.Sound) : c.pin.Sound := by
  have hqueue : c.pin.reclaimer.queue = c.reclaimer.queue := c.reclaimer.pin_queue
  refine ⟨hc.tracks.pin, ?_, ?_, ?_, hc.answered⟩
  · rw [Reclaimer.Ascending, hqueue]
    exact hc.ascending
  · rw [Reclaimer.pending, hqueue]
    exact hc.counted
  · rw [hqueue]
    exact hc.retired

theorem Sound.drop {g : Guard} (hc : c.Sound) (hg : g ∈ c.held) : (c.drop g).Sound := by
  have hqueue : (c.drop g).reclaimer.queue = c.reclaimer.queue := c.reclaimer.unpin_queue g
  refine ⟨(hc.tracks.perm (List.perm_cons_erase hg)).unpin, ?_, ?_, ?_, hc.answered⟩
  · rw [Reclaimer.Ascending, hqueue]
    exact hc.ascending
  · rw [Reclaimer.pending, hqueue]
    exact hc.counted
  · rw [hqueue]
    exact hc.retired

theorem Sound.retire (hc : c.Sound) (a : ρ) : (c.retire a).Sound := by
  refine ⟨hc.tracks.retire a, hc.ascending.foldl_retire hc.tracks.queued [a], ?_, ?_, hc.answered⟩
  · rw [Chronicle.retire, Reclaimer.pending_retire, hc.counted]
  · simp only [Chronicle.retire, Reclaimer.retire, hc.retired, List.map_append, List.map_cons,
      List.map_nil, List.append_assoc]

/-- With its counter right, a chronicle reclaims as its reclaimer does, and the counter stays right:
what ran is subtracted after what it queued has been added. -/
theorem reclaim_eq (hcounted : c.waiting = c.reclaimer.pending) :
    c.reclaim follow =
      { c with
        reclaimer := (c.reclaimer.reclaim follow).1
        waiting := c.waiting + ((c.reclaimer.reclaim follow).2.flatMap follow).length -
          (c.reclaimer.reclaim follow).2.length
        retired := c.retired ++ (c.reclaimer.reclaim follow).2.flatMap follow
        ran := c.ran ++ (c.reclaimer.reclaim follow).2
        answers := c.answers ++ [(c.reclaimer.reclaim follow).2.length] } := by
  have hempty : c.waiting = 0 ↔ c.reclaimer.queue.isEmpty = true := by
    rw [hcounted, Reclaimer.pending, List.length_eq_zero_iff, List.isEmpty_iff]
  by_cases h : c.waiting = 0
  · simp only [reclaim, Reclaimer.reclaim, Reclaimer.collect, if_pos h, if_pos (hempty.1 h),
      List.flatMap_nil, List.foldl_nil, List.length_nil, Nat.add_zero, Nat.sub_zero, List.append_nil]
  · simp only [reclaim, Reclaimer.reclaim, Reclaimer.collect, if_neg h, if_neg (mt hempty.2 h),
      foldl_release, List.length_map]

theorem Sound.reclaim (hc : c.Sound) : (c.reclaim follow).Sound := by
  have hcut := hc.ascending.collect
  have hqueued := hc.tracks.collect.1.queued
  have hlength : c.reclaimer.collect.2.length + c.reclaimer.collect.1.queue.length =
      c.reclaimer.queue.length := by
    have := congrArg List.length hcut.2
    simpa only [List.length_append, List.length_map] using this
  rw [reclaim_eq hc.counted]
  refine ⟨hc.tracks.reclaim follow, hcut.1.foldl_retire hqueued _, ?_, ?_, ?_⟩
  · have hwaiting := hc.counted
    simp only [Reclaimer.reclaim, Reclaimer.pending, Reclaimer.queue_foldl_retire, List.length_append,
      List.length_map] at hwaiting ⊢
    omega
  · simp only [Reclaimer.reclaim, Reclaimer.queue_foldl_retire, List.map_append, List.map_map,
      hc.retired, ← hcut.2, List.append_assoc]
    simp [Function.comp_def]
  · simp only [List.sum_append, List.sum_singleton, List.length_append, hc.answered]

theorem Reachable.sound (hr : Reachable follow c) : c.Sound := by
  induction hr with
  | start => exact ⟨Reclaimer.Tracks.empty, List.Pairwise.nil, rfl, rfl, rfl⟩
  | pin _ ih => exact ih.pin
  | drop _ hg ih => exact ih.drop hg
  | retire a _ ih => exact ih.retire a
  | reclaim _ ih => exact ih.reclaim

/-! ### Without guards -/

/-- Without guards a reclaim runs all that waits at its start; what waits then was queued by these. -/
theorem Sound.reclaim_all (hc : c.Sound) (hheld : c.held = []) :
    (c.reclaim follow).ran = c.ran ++ c.reclaimer.queue.map (·.release) ∧
      (c.reclaim follow).reclaimer.queue.map (·.release) =
        (c.reclaimer.queue.map (·.release)).flatMap follow := by
  have hall : c.reclaimer.queue.filter (Reclaimer.precedes []) = c.reclaimer.queue :=
    List.filter_eq_self.2 fun _ _ => rfl
  have hnone : c.reclaimer.queue.filter (fun q => !Reclaimer.precedes [] q) = [] :=
    List.filter_eq_nil_iff.2 fun q _ => by simp [Reclaimer.precedes]
  have hcollect := hc.tracks.collect
  rw [hheld, hall, hnone] at hcollect
  rw [reclaim_eq hc.counted]
  simp only [Reclaimer.reclaim, Reclaimer.queue_foldl_retire, hcollect.2.1, hcollect.2.2,
    List.nil_append, List.map_map]
  simp [Function.comp_def]

theorem held_reclaim (hc : c.Sound) : (c.reclaim follow).held = c.held := by
  rw [reclaim_eq hc.counted]

/-- No chain of releases, each retired by the one before, that starts with this one is longer. -/
def ChainsWithin (follow : ρ → List ρ) (d : Nat) (a : ρ) : Prop :=
  ∀ l, List.IsChain (fun b b' => b' ∈ follow b) (a :: l) → (a :: l).length ≤ d

theorem ChainsWithin.pos {d : Nat} {a : ρ} (h : ChainsWithin follow d a) : 0 < d :=
  h [] (.singleton a)

theorem chainsWithin_succ {d : Nat} {a : ρ} :
    ChainsWithin follow (d + 1) a ↔ ∀ b ∈ follow a, ChainsWithin follow d b := by
  constructor
  · intro h b hb l hl
    have := h (b :: l) (.cons_cons hb hl)
    simp only [List.length_cons] at this ⊢
    omega
  · intro h l hl
    cases hl with
    | singleton => exact Nat.le_add_left 1 d
    | cons_cons hb hl => exact Nat.succ_le_succ (h _ hb _ hl)

/-- Each reclaim without guards takes the first release off every chain. -/
theorem Sound.drained {d : Nat} (hc : c.Sound) (hheld : c.held = [])
    (hd : ∀ q ∈ c.reclaimer.queue, ChainsWithin follow d q.release) :
    ((Chronicle.reclaim follow)^[d] c).reclaimer.queue = [] := by
  induction d generalizing c with
  | zero =>
    refine List.eq_nil_iff_forall_not_mem.2 fun q hq => ?_
    exact Nat.lt_irrefl 0 (hd q hq).pos
  | succ d ih =>
    rw [Function.iterate_succ_apply]
    refine ih hc.reclaim ((held_reclaim hc).trans hheld) ?_
    intro q hq
    have hmem : q.release ∈ (c.reclaim follow).reclaimer.queue.map (·.release) :=
      List.mem_map_of_mem hq
    rw [(hc.reclaim_all hheld).2] at hmem
    obtain ⟨a, ha, hfollow⟩ := List.mem_flatMap.1 hmem
    obtain ⟨p, hp, rfl⟩ := List.mem_map.1 ha
    exact chainsWithin_succ.1 (hd p hp) _ hfollow

theorem Sound.iterate (hc : c.Sound) (n : Nat) : ((Chronicle.reclaim follow)^[n] c).Sound := by
  induction n generalizing c with
  | zero => exact hc
  | succ n ih => exact ih hc.reclaim

/-- The counter is the length of the queue. A chronicle reclaims as the reclaimer does and answers with
the number that ran. What has been retired is what has run, in that order, and then what waits, so what
has run is the beginning of it; the answers sum to the number that has run. Without guards a reclaim
runs all that waits at its start, and so many reclaims empty the queue as the longest chain of nested
releases has members. -/
theorem releases_run_once (hr : Reachable follow c) :
    (c.waiting = c.reclaimer.pending ∧ c.reclaimer.pending = c.reclaimer.queue.length) ∧
    ((c.reclaim follow).reclaimer = (c.reclaimer.reclaim follow).1 ∧
      (c.reclaim follow).ran = c.ran ++ (c.reclaimer.reclaim follow).2 ∧
      (c.reclaim follow).answers = c.answers ++ [(c.reclaimer.reclaim follow).2.length]) ∧
    c.retired = c.ran ++ c.reclaimer.queue.map (·.release) ∧
    c.ran <+: c.retired ∧
    c.answers.sum = c.ran.length ∧
    (c.held = [] → (c.reclaim follow).ran = c.ran ++ c.reclaimer.queue.map (·.release)) ∧
    (c.held = [] → ∀ d, (∀ q ∈ c.reclaimer.queue, ChainsWithin follow d q.release) →
      ((reclaim follow)^[d] c).reclaimer.queue = [] ∧ ((reclaim follow)^[d] c).waiting = 0) := by
  have hc := hr.sound
  refine ⟨⟨hc.counted, rfl⟩, ?_, hc.retired, ⟨_, hc.retired.symm⟩, hc.answered, ?_, ?_⟩
  · rw [reclaim_eq hc.counted]
    exact ⟨rfl, rfl, rfl⟩
  · exact fun hheld => (hc.reclaim_all hheld).1
  · intro hheld d hd
    have hempty := hc.drained hheld hd
    refine ⟨hempty, ?_⟩
    rw [(hc.iterate d).counted, Reclaimer.pending, hempty]
    rfl

/-- Releases that count down to zero by retiring their predecessors. Under a guard one of them waits and
another is queued; when the guard has been given back, three reclaims run what is left of both. -/
theorem releases_run_once_countdown :
    let follow := fun n : Nat => if n = 0 then [] else [n - 1]
    let c := (((retire {} 1).reclaim follow).pin.reclaim follow).retire 2 |>.drop ⟨2⟩
    Reachable follow c ∧ c.held = [] ∧
      (∀ q ∈ c.reclaimer.queue, ChainsWithin follow 3 q.release) ∧
      c.retired = [1, 0, 2] ∧ c.ran = [1] ∧ c.ran <+: c.retired ∧ c.answers.sum = c.ran.length ∧
      ((reclaim follow)^[3] c).waiting = 0 ∧ ((reclaim follow)^[3] c).ran = [1, 0, 2, 1, 0] := by
  intro follow c
  have hr : Reachable follow c :=
    .drop (.retire 2 (.reclaim (.pin (.reclaim (.retire 1 .start))))) (by decide)
  have hchains : ∀ q ∈ c.reclaimer.queue, ChainsWithin follow 3 q.release := by
    have hqueue : c.reclaimer.queue.map (·.release) = [0, 2] := by decide
    intro q hq
    have hmem : q.release ∈ [0, 2] := hqueue ▸ List.mem_map_of_mem hq
    rcases List.mem_pair.1 hmem with h | h <;> simp [h, chainsWithin_succ, follow]
  have hheld : c.held = [] := by decide
  obtain ⟨-, -, -, hbegin, hsum, -, hdrain⟩ := releases_run_once hr
  exact ⟨hr, hheld, hchains, by decide, by decide, hbegin, hsum, (hdrain hheld 3 hchains).2, by decide⟩

end Chronicle

end VlanBridge
