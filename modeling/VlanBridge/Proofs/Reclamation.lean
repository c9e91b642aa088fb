import VlanBridge.Reclaimer
/-!
# Which releases run

The guards that are held are all that decides when a release runs, though a reclaimer keeps only two
numbers for them. `Reclaimer.Tracks` says how the numbers and the epochs stand to a list of held guards;
every operation keeps it. From it follows what a reclaim runs: the releases queued in an epoch before
that of every held guard, those and no others (`released_reclaim`).

A `Session` is a reclaimer together with the guards taken from it. It marks guards and releases with
the time of their taking and queueing, so that "taken before" can be said of them.
-/

namespace VlanBridge

namespace Reclaimer

variable {ρ : Type}

/-- A reclaimer stands as it must with these guards held. -/
structure Tracks (r : Reclaimer ρ) (guards : List Guard) : Prop where
  readers : ∀ e, r.readers e = guards.countP fun g => g.epoch % 2 = e % 2
  near : ∀ g ∈ guards, g.epoch ≤ r.epoch ∧ r.epoch ≤ g.epoch + 1
  queued : ∀ q ∈ r.queue, q.epoch ≤ r.epoch

variable {r : Reclaimer ρ} {guards : List Guard}

theorem Tracks.empty : ({} : Reclaimer ρ).Tracks [] := by
  refine ⟨?_, by simp, by simp⟩
  intro e
  unfold Reclaimer.readers
  split <;> rfl

theorem Tracks.perm {others : List Guard} (ht : r.Tracks guards) (hp : guards.Perm others) :
    r.Tracks others := by
  refine ⟨?_, ?_, ht.queued⟩
  · intro e
    rw [ht.readers e, hp.countP_eq]
  · intro g hg
    exact ht.near g (hp.mem_iff.2 hg)

theorem Tracks.pin (ht : r.Tracks guards) : r.pin.1.Tracks (r.pin.2 :: guards) := by
  have hepoch : r.pin.1.epoch = r.epoch := modifyReaders_epoch r r.epoch (· + 1)
  refine ⟨?_, ?_, ?_⟩
  · intro e
    have hr := ht.readers e
    simp only [Reclaimer.pin, readers_modifyReaders, List.countP_cons]
    by_cases he : r.epoch % 2 = e % 2
    · simp only [he, if_true, decide_true, hr]
    · simp only [he, if_false, decide_false, hr, Bool.false_eq_true, Nat.add_zero]
  · intro g hg
    rw [hepoch]
    rcases List.mem_cons.1 hg with rfl | hg
    · exact ⟨Nat.le_refl _, Nat.le_succ _⟩
    · exact ht.near g hg
  · intro q hq
    rw [hepoch]
    rw [pin_queue] at hq
    exact ht.queued q hq

theorem Tracks.unpin {g : Guard} (ht : r.Tracks (g :: guards)) : (r.unpin g).Tracks guards := by
  have hepoch : (r.unpin g).epoch = r.epoch := modifyReaders_epoch r g.epoch (· - 1)
  refine ⟨?_, ?_, ?_⟩
  · intro e
    have hr := ht.readers e
    rw [List.countP_cons] at hr
    simp only [Reclaimer.unpin, readers_modifyReaders]
    by_cases he : g.epoch % 2 = e % 2
    · simp only [he, decide_true, if_true] at hr ⊢
      omega
    · simp only [he, decide_false, if_false, Bool.false_eq_true, Nat.add_zero] at hr ⊢
      exact hr
  · intro a ha
    rw [hepoch]
    exact ht.near a (List.mem_cons_of_mem _ ha)
  · intro q hq
    rw [hepoch]
    rw [unpin_queue] at hq
    exact ht.queued q hq

theorem Tracks.retire (ht : r.Tracks guards) (release : ρ) : (r.retire release).Tracks guards := by
  refine ⟨ht.readers, ht.near, ?_⟩
  intro q hq
  rcases List.mem_append.1 hq with hq | hq
  · exact ht.queued q hq
  · rw [List.mem_singleton.1 hq]
    exact Nat.le_refl _

theorem Tracks.foldl_retire (ht : r.Tracks guards) (releases : List ρ) :
    (releases.foldl Reclaimer.retire r).Tracks guards := by
  induction releases generalizing r with
  | nil => exact ht
  | cons a as ih => exact ih (ht.retire a)

/-! ### Moving on by an epoch -/

/-- The count that an advance looks at is that of the guards of the epoch before. -/
theorem Tracks.draining_iff (ht : r.Tracks guards) :
    r.readers (r.epoch + 1) = 0 ↔ ∀ g ∈ guards, g.epoch = r.epoch := by
  rw [ht.readers, List.countP_eq_zero]
  constructor
  · intro h g hg
    have hne := h g hg
    have hnear := ht.near g hg
    simp only [decide_eq_true_eq] at hne
    omega
  · intro h g hg
    have he := h g hg
    simp only [decide_eq_true_eq, he]
    omega

theorem Tracks.epoch_advance (ht : r.Tracks guards) :
    (∀ g ∈ guards, g.epoch = r.epoch) ∧ r.advance.epoch = r.epoch + 1 ∨
      (∃ g ∈ guards, g.epoch ≠ r.epoch) ∧ r.advance = r := by
  by_cases h : r.readers (r.epoch + 1) = 0
  · exact Or.inl ⟨ht.draining_iff.1 h, by rw [advance, if_pos h]⟩
  · refine Or.inr ⟨?_, by rw [advance, if_neg h]⟩
    have hn := mt ht.draining_iff.2 h
    simpa only [Classical.not_forall, exists_prop] using hn

theorem Tracks.advance (ht : r.Tracks guards) : r.advance.Tracks guards := by
  rcases ht.epoch_advance with ⟨hall, he⟩ | ⟨-, he⟩
  · refine ⟨fun e => by rw [readers_advance, ht.readers e], ?_, ?_⟩
    · intro g hg
      have := hall g hg
      omega
    · intro q hq
      rw [advance_queue] at hq
      have := ht.queued q hq
      omega
  · rw [he]
    exact ht

/-- After two attempts to move on, a release is ready if it was queued before the epoch of every
guard: a guard of the epoch before stops the first, a guard of this one the second. -/
theorem Tracks.isReady_advance (ht : r.Tracks guards) {q : Queued ρ} (hq : q ∈ r.queue) :
    r.advance.advance.isReady q = true ↔ ∀ g ∈ guards, q.epoch < g.epoch := by
  have hqe := ht.queued q hq
  rw [isReady, decide_eq_true_eq]
  rcases ht.epoch_advance with ⟨hall, hone⟩ | ⟨⟨g, hg, hne⟩, hone⟩
  · rcases ht.advance.epoch_advance with ⟨hall', htwo⟩ | ⟨⟨g, hg, -⟩, htwo⟩
    · have hnone : ∀ g, g ∉ guards := by
        intro g hg
        have h := hall g hg
        have h' := hall' g hg
        omega
      refine ⟨fun _ g hg => absurd hg (hnone g), fun _ => by omega⟩
    · have hge := hall g hg
      rw [htwo, hone]
      refine ⟨fun h a ha => ?_, fun h => ?_⟩
      · have := hall a ha
        omega
      · have := h g hg
        omega
  · have hnear := ht.near g hg
    rw [hone, hone]
    refine ⟨fun h a ha => ?_, fun h => ?_⟩
    · have := ht.near a ha
      omega
    · have := h g hg
      omega

/-! ### Reclaiming -/

/-- Whether a release was queued before the epoch of every guard. -/
def precedes (guards : List Guard) (q : Queued ρ) : Bool := guards.all fun g => q.epoch < g.epoch

theorem precedes_iff {q : Queued ρ} :
    precedes guards q = true ↔ ∀ g ∈ guards, q.epoch < g.epoch := by
  simp only [precedes, List.all_eq_true, decide_eq_true_eq]

theorem Tracks.collect (ht : r.Tracks guards) :
    r.collect.1.Tracks guards ∧
      r.collect.1.queue = r.queue.filter (fun q => !precedes guards q) ∧
      r.collect.2 = (r.queue.filter (precedes guards)).map (·.release) := by
  unfold Reclaimer.collect
  by_cases he : r.queue.isEmpty = true
  · have hnil : r.queue = [] := List.isEmpty_iff.1 he
    rw [if_pos he]
    exact ⟨ht, by rw [hnil]; rfl, by rw [hnil]; rfl⟩
  · have htwo := ht.advance.advance
    have hsame : ∀ q ∈ r.queue, r.advance.advance.isReady q = precedes guards q := by
      intro q hq
      rw [Bool.eq_iff_iff, ht.isReady_advance hq, precedes_iff]
    rw [if_neg he]
    simp only [advance_queue]
    refine ⟨⟨htwo.readers, htwo.near, ?_⟩, ?_, ?_⟩
    · intro q hq
      have hq := (List.mem_filter.1 hq).1
      exact htwo.queued q (by rw [advance_queue, advance_queue]; exact hq)
    · exact List.filter_congr fun q hq => by rw [hsame q hq]
    · rw [List.filter_congr hsame]

theorem Tracks.reclaim (ht : r.Tracks guards) (follow : ρ → List ρ) :
    (r.reclaim follow).1.Tracks guards := ht.collect.1.foldl_retire _

theorem released_reclaim (ht : r.Tracks guards) (follow : ρ → List ρ) :
    (r.reclaim follow).2 = (r.queue.filter (precedes guards)).map (·.release) := ht.collect.2.2

theorem epoch_foldl_retire (r : Reclaimer ρ) (releases : List ρ) :
    (releases.foldl retire r).epoch = r.epoch := by
  induction releases generalizing r with
  | nil => rfl
  | cons a as ih => exact ih (r.retire a)

theorem queue_foldl_retire (r : Reclaimer ρ) (releases : List ρ) :
    (releases.foldl retire r).queue = r.queue ++ releases.map (⟨r.epoch, ·⟩) := by
  induction releases generalizing r with
  | nil => simp
  | cons a as ih =>
    rw [List.foldl_cons, ih]
    simp [retire]

end Reclaimer

/-! ### Sessions -/

/-- A release with the time at which it was queued. -/
structure Marked (ρ : Type) where
  time : Nat
  release : ρ
  deriving DecidableEq

/-- A guard that is held, with the time at which it was taken. -/
structure Held where
  time : Nat
  guard : Guard
  deriving DecidableEq

/-- A reclaimer and the guards taken from it. Each operation takes place at a time of its own. -/
structure Session (ρ : Type) where
  reclaimer : Reclaimer (Marked ρ) := {}
  held : List Held := []
  time : Nat := 0

namespace Session

variable {ρ : Type}

def pin (s : Session ρ) : Session ρ :=
  { reclaimer := s.reclaimer.pin.1
    held := ⟨s.time, s.reclaimer.pin.2⟩ :: s.held
    time := s.time + 1 }

def drop (s : Session ρ) (h : Held) : Session ρ :=
  { s with reclaimer := s.reclaimer.unpin h.guard, held := s.held.erase h }

def retire (s : Session ρ) (release : ρ) : Session ρ :=
  { s with reclaimer := s.reclaimer.retire ⟨s.time, release⟩, time := s.time + 1 }

/-- Runs the releases that are ready, each of which may queue others; lists those that ran. -/
def reclaim (follow : ρ → List ρ) (s : Session ρ) : Session ρ × List (Marked ρ) :=
  let (reclaimer, ran) := s.reclaimer.reclaim fun m => (follow m.release).map (⟨s.time, ·⟩)
  ({ s with reclaimer, time := s.time + 1 }, ran)

/-- The sessions that come about from an unused reclaimer. -/
inductive Reachable (follow : ρ → List ρ) : Session ρ → Prop where
  | start : Reachable follow {}
  | pin {s : Session ρ} : Reachable follow s → Reachable follow s.pin
  | drop {s : Session ρ} {h : Held} : Reachable follow s → h ∈ s.held → Reachable follow (s.drop h)
  | retire {s : Session ρ} (release : ρ) : Reachable follow s → Reachable follow (s.retire release)
  | reclaim {s : Session ρ} : Reachable follow s → Reachable follow (s.reclaim follow).1

/-- What holds of every session: a guard taken before a release was queued is of no later epoch. -/
structure Sound (s : Session ρ) : Prop where
  tracks : s.reclaimer.Tracks (s.held.map (·.guard))
  taken : ∀ h ∈ s.held, h.time < s.time
  queued : ∀ q ∈ s.reclaimer.queue, q.release.time < s.time
  ordered : ∀ h ∈ s.held, ∀ q ∈ s.reclaimer.queue, h.time < q.release.time → h.guard.epoch ≤ q.epoch

variable {s : Session ρ}

theorem Sound.pin (hs : s.Sound) : s.pin.Sound := by
  have hqueue : s.pin.reclaimer.queue = s.reclaimer.queue := s.reclaimer.pin_queue
  refine ⟨hs.tracks.pin, ?_, ?_, ?_⟩
  · intro h hh
    rcases List.mem_cons.1 hh with rfl | hh
    · exact Nat.lt_succ_self _
    · exact Nat.lt_succ_of_lt (hs.taken h hh)
  · intro q hq
    rw [hqueue] at hq
    exact Nat.lt_succ_of_lt (hs.queued q hq)
  · intro h hh q hq hlt
    rw [hqueue] at hq
    rcases List.mem_cons.1 hh with rfl | hh
    · have := hs.queued q hq
      simp only at hlt
      omega
    · exact hs.ordered h hh q hq hlt

theorem Sound.drop {h : Held} (hs : s.Sound) (hh : h ∈ s.held) : (s.drop h).Sound := by
  have hqueue : (s.drop h).reclaimer.queue = s.reclaimer.queue := s.reclaimer.unpin_queue h.guard
  have hsub : ∀ a ∈ s.held.erase h, a ∈ s.held := fun a ha => List.mem_of_mem_erase ha
  refine ⟨?_, fun a ha => hs.taken a (hsub a ha), ?_, ?_⟩
  · have hp := (List.perm_cons_erase hh).map (·.guard)
    exact (hs.tracks.perm hp).unpin
  · intro q hq
    rw [hqueue] at hq
    exact hs.queued q hq
  · intro a ha q hq
    rw [hqueue] at hq
    exact hs.ordered a (hsub a ha) q hq

theorem Sound.retire (hs : s.Sound) (release : ρ) : (s.retire release).Sound := by
  refine ⟨hs.tracks.retire _, fun h hh => Nat.lt_succ_of_lt (hs.taken h hh), ?_, ?_⟩
  · intro q hq
    rcases List.mem_append.1 hq with hq | hq
    · exact Nat.lt_succ_of_lt (hs.queued q hq)
    · rw [List.mem_singleton.1 hq]
      exact Nat.lt_succ_self _
  · intro h hh q hq hlt
    rcases List.mem_append.1 hq with hq | hq
    · exact hs.ordered h hh q hq hlt
    · rw [List.mem_singleton.1 hq]
      have hmem : h.guard ∈ s.held.map (·.guard) := List.mem_map_of_mem hh
      exact (hs.tracks.near _ hmem).1

/-- What waits after a reclaim has waited before, or was queued by one of the releases that ran. -/
theorem Sound.queue_reclaim (hs : s.Sound) (follow : ρ → List ρ) :
    (s.reclaim follow).1.reclaimer.queue =
      s.reclaimer.queue.filter (fun q => !Reclaimer.precedes (s.held.map (·.guard)) q) ++
        ((s.reclaim follow).2.flatMap fun m => (follow m.release).map (⟨s.time, ·⟩)).map
          (⟨(s.reclaim follow).1.reclaimer.epoch, ·⟩) := by
  have hq := hs.tracks.collect.2.1
  simp only [Session.reclaim, Reclaimer.reclaim, Reclaimer.queue_foldl_retire, hq,
    Reclaimer.epoch_foldl_retire]

theorem Sound.reclaim (hs : s.Sound) (follow : ρ → List ρ) : (s.reclaim follow).1.Sound := by
  have ht := hs.tracks.reclaim fun m => (follow m.release).map (⟨s.time, ·⟩)
  have hqueue := hs.queue_reclaim follow
  refine ⟨ht, fun h hh => Nat.lt_succ_of_lt (hs.taken h hh), ?_, ?_⟩
  · intro q hq
    rw [hqueue] at hq
    rcases List.mem_append.1 hq with hq | hq
    · exact Nat.lt_succ_of_lt (hs.queued q (List.mem_filter.1 hq).1)
    · simp only [List.mem_map, List.mem_flatMap] at hq
      obtain ⟨m, ⟨-, -, -, -, rfl⟩, rfl⟩ := hq
      exact Nat.lt_succ_self _
  · intro h hh q hq hlt
    rw [hqueue] at hq
    rcases List.mem_append.1 hq with hq | hq
    · exact hs.ordered h hh q (List.mem_filter.1 hq).1 hlt
    · simp only [List.mem_map, List.mem_flatMap] at hq
      obtain ⟨m, -, rfl⟩ := hq
      have hmem : h.guard ∈ s.held.map (·.guard) := List.mem_map_of_mem hh
      exact (ht.near _ hmem).1

theorem Reachable.sound {follow : ρ → List ρ} (hr : Reachable follow s) : s.Sound := by
  induction hr with
  | start => exact ⟨Reclaimer.Tracks.empty, by simp, by simp, by simp⟩
  | pin _ ih => exact ih.pin
  | drop _ hh ih => exact ih.drop hh
  | retire release _ ih => exact ih.retire release
  | reclaim _ ih => exact ih.reclaim follow

/-- A release that waits still waits after a reclaim if a guard of no later epoch is held. -/
theorem Sound.mem_queue_reclaim_iff (hs : s.Sound) (follow : ρ → List ρ) {q : Queued (Marked ρ)}
    (hq : q ∈ s.reclaimer.queue) :
    q ∈ (s.reclaim follow).1.reclaimer.queue ↔ ∃ h ∈ s.held, h.guard.epoch ≤ q.epoch := by
  have htime := hs.queued q hq
  rw [hs.queue_reclaim follow, List.mem_append, List.mem_filter]
  constructor
  · rintro (⟨-, hp⟩ | hnew)
    · simpa only [Reclaimer.precedes, List.all_map, Bool.not_eq_true', List.all_eq_false,
        Function.comp_apply, decide_eq_true_eq, Nat.not_lt] using hp
    · simp only [List.mem_map, List.mem_flatMap] at hnew
      obtain ⟨m, ⟨a, -, b, -, hm⟩, rfl⟩ := hnew
      rw [← hm] at htime
      exact absurd htime (Nat.lt_irrefl _)
  · rintro ⟨h, hh, hle⟩
    refine Or.inl ⟨hq, ?_⟩
    simp only [Reclaimer.precedes, List.all_map, Bool.not_eq_true', List.all_eq_false,
      Function.comp_apply, decide_eq_true_eq, Nat.not_lt]
    exact ⟨h, hh, hle⟩

theorem Sound.ran_eq (hs : s.Sound) (follow : ρ → List ρ) :
    (s.reclaim follow).2 =
      (s.reclaimer.queue.filter fun q => s.held.all fun h => q.epoch < h.guard.epoch).map
        (·.release) := by
  have hran := Reclaimer.released_reclaim hs.tracks fun m => (follow m.release).map (⟨s.time, ·⟩)
  simp only [Session.reclaim, hran]
  congr 2
  funext q
  simp only [Reclaimer.precedes, List.all_map, Function.comp_def]

/-- Nothing runs that was queued after a held guard had been taken. -/
theorem Sound.not_taken_before_ran (hs : s.Sound) (follow : ρ → List ρ) {m : Marked ρ} {h : Held}
    (hm : m ∈ (s.reclaim follow).2) (hh : h ∈ s.held) : ¬ h.time < m.time := by
  intro hlt
  rw [hs.ran_eq follow] at hm
  obtain ⟨q, hq, rfl⟩ := List.mem_map.1 hm
  obtain ⟨hq, hall⟩ := List.mem_filter.1 hq
  have hbefore := of_decide_eq_true (List.all_eq_true.1 hall h hh)
  have hle := hs.ordered h hh q hq hlt
  omega

/-- The two counts are those of the held guards by parity, and the epoch is at most one ahead of a
held guard's. A reclaim runs, in their order, the releases queued before the epoch of every held
guard. So nothing runs that was queued after a held guard had been taken, and a release waits on
only while a guard of no later epoch than its own is held. -/
theorem reclaim_runs_exactly {follow : ρ → List ρ} (hr : Reachable follow s) :
    (s.reclaimer.evenReaders = s.held.countP (·.guard.epoch % 2 = 0) ∧
      s.reclaimer.oddReaders = s.held.countP (·.guard.epoch % 2 = 1)) ∧
    (∀ h ∈ s.held, h.guard.epoch ≤ s.reclaimer.epoch ∧ s.reclaimer.epoch ≤ h.guard.epoch + 1) ∧
    (s.reclaim follow).2 =
      (s.reclaimer.queue.filter fun q => s.held.all fun h => q.epoch < h.guard.epoch).map
        (·.release) ∧
    (∀ m ∈ (s.reclaim follow).2, ∀ h ∈ s.held, ¬ h.time < m.time) ∧
    (∀ q ∈ s.reclaimer.queue,
      q ∈ (s.reclaim follow).1.reclaimer.queue ↔ ∃ h ∈ s.held, h.guard.epoch ≤ q.epoch) := by
  have hs := hr.sound
  refine ⟨?_, ?_, hs.ran_eq follow, ?_, ?_⟩
  · have heven := hs.tracks.readers 0
    have hodd := hs.tracks.readers 1
    rw [List.countP_map] at heven hodd
    exact ⟨heven, hodd⟩
  · intro h hh
    exact hs.tracks.near _ (List.mem_map_of_mem hh)
  · intro m hm h hh
    exact hs.not_taken_before_ran follow hm hh
  · intro q hq
    exact hs.mem_queue_reclaim_iff follow hq

/-- Two guards of different epochs and a release queued under each: while the later guard is held,
the earlier release runs and the later one waits. -/
theorem reclaim_runs_exactly_overlapping :
    let s : Session Nat := ((((((Session.pin {}).retire 7).reclaim fun _ => []).1.pin).retire 8).drop
      ⟨0, ⟨0⟩⟩)
    Reachable (fun _ => []) s ∧ s.held = [⟨3, ⟨1⟩⟩] ∧ (s.reclaim fun _ => []).2 = [⟨1, 7⟩] := by
  have hstart : Reachable (fun _ : Nat => []) {} := .start
  have hr := (hstart.pin.retire 7).reclaim.pin.retire 8 |>.drop (h := ⟨0, ⟨0⟩⟩) (by decide)
  exact ⟨hr, rfl, (reclaim_runs_exactly hr).2.2.1⟩

end Session

end VlanBridge
