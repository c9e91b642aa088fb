import VlanBridge.Proofs.Receptions
import VlanBridge.Proofs.Reclamation
/-!
# Slots, records and releases

A reclaim runs the releases that were queued before the epoch of every guard (`reclaim_eq_of_tracks`);
between two events of a bridge by itself no guard is held, so it runs all that waits (`reclaim_eq`).
`Sound` is what the tables keep to by themselves, whichever guards are held: a slot is busy if it holds a
port or waits for its release, and never both; no slot waits twice; the port in a slot knows its slot;
records have serial numbers of their own; entries are in order. Every transition keeps it.
-/

namespace VlanBridge

open VlanBridge.Net

namespace Release

/-- What a release does to the ports. -/
def onPorts : Release → PortTable → PortTable
  | .slot i, t => t.free i
  | .entries, t => t
  | .vlan _, t => t

/-- What a release does to the VLANs. -/
def onVlans : Release → VlanDb → VlanDb
  | .vlan serial, db => db.discard serial
  | .entries, db => db
  | .slot _, db => db

/-- What some releases do to the ports. -/
def allOnPorts (rs : List Release) (t : PortTable) : PortTable := rs.foldl (fun t r => r.onPorts t) t

/-- What some releases do to the VLANs. -/
def allOnVlans (rs : List Release) (db : VlanDb) : VlanDb := rs.foldl (fun db r => r.onVlans db) db

theorem port?_allOnPorts (rs : List Release) (t : PortTable) (i : PortIndex) :
    (allOnPorts rs t).port? i = t.port? i := by
  induction rs generalizing t with
  | nil => rfl
  | cons r rs ih =>
    have hone : (r.onPorts t).port? i = t.port? i := by cases r <;> rfl
    exact (ih (r.onPorts t)).trans hone

theorem generation_allOnPorts (rs : List Release) (t : PortTable) (i : PortIndex) :
    (allOnPorts rs t).generation i = t.generation i := by
  induction rs generalizing t with
  | nil => rfl
  | cons r rs ih =>
    have hone : (r.onPorts t).generation i = t.generation i := by cases r <;> rfl
    exact (ih (r.onPorts t)).trans hone

theorem active_allOnPorts (rs : List Release) (t : PortTable) :
    (allOnPorts rs t).active = t.active := by
  induction rs generalizing t with
  | nil => rfl
  | cons r rs ih =>
    have hone : (r.onPorts t).active = t.active := by cases r <;> rfl
    exact (ih (r.onPorts t)).trans hone

theorem mem_busy_allOnPorts {rs : List Release} {t : PortTable} {i : PortIndex} :
    i ∈ (allOnPorts rs t).busy ↔ i ∈ t.busy ∧ Release.slot i ∉ rs := by
  induction rs generalizing t with
  | nil => simp [allOnPorts]
  | cons r rs ih =>
    have hone : i ∈ (r.onPorts t).busy ↔ i ∈ t.busy ∧ Release.slot i ≠ r := by
      cases r with
      | entries => simp [onPorts]
      | vlan serial => simp [onPorts]
      | slot j => simp [onPorts, PortTable.free, and_comm]
    show i ∈ (allOnPorts rs (r.onPorts t)).busy ↔ _
    rw [ih, hone, List.mem_cons, not_or, and_assoc]

theorem published_allOnVlans (rs : List Release) (db : VlanDb) :
    (allOnVlans rs db).published = db.published := by
  induction rs generalizing db with
  | nil => rfl
  | cons r rs ih =>
    have hone : (r.onVlans db).published = db.published := by cases r <;> rfl
    exact (ih (r.onVlans db)).trans hone

/-- The releases of entries have nothing left to do. -/
theorem allOn_of_entries {rs : List Release} (h : ∀ r ∈ rs, r = .entries) (t : PortTable)
    (db : VlanDb) : allOnPorts rs t = t ∧ allOnVlans rs db = db := by
  induction rs with
  | nil => exact ⟨rfl, rfl⟩
  | cons r rs ih =>
    rw [h r List.mem_cons_self]
    exact ih fun s hs => h s (List.mem_cons_of_mem _ hs)

theorem sound_allOnVlans (rs : List Release) {db : VlanDb} (hd : db.Sound) :
    (allOnVlans rs db).Sound := by
  induction rs generalizing db with
  | nil => exact hd
  | cons r rs ih =>
    cases r with
    | entries => exact ih hd
    | vlan serial => exact ih (hd.discard serial)
    | slot i => exact ih hd

end Release

namespace Bridge

variable {b : Bridge} {guards : List Guard}

/-- The releases that wait. -/
def waiting (b : Bridge) : List Release := b.reclaimer.queue.map (·.release)

/-- The releases that wait and do not have to wait for one of these guards. -/
def ready (b : Bridge) (guards : List Guard) : List Release :=
  (b.reclaimer.queue.filter (Reclaimer.precedes guards)).map (·.release)

/-- The releases that have to wait for one of these guards. -/
def blocked (b : Bridge) (guards : List Guard) : List Release :=
  (b.reclaimer.queue.filter fun q => !Reclaimer.precedes guards q).map (·.release)

theorem ready_nil (b : Bridge) : b.ready [] = b.waiting :=
  congrArg _ (List.filter_eq_self.2 fun _ _ => rfl)

theorem blocked_nil (b : Bridge) : b.blocked [] = [] := by
  simp [blocked, Reclaimer.precedes]

theorem perm_ready_blocked (b : Bridge) (guards : List Guard) :
    (b.ready guards ++ b.blocked guards).Perm b.waiting := by
  unfold ready blocked waiting
  rw [← List.map_append]
  exact (List.filter_append_perm _ _).map _

theorem waiting_queue (b : Bridge) (r : Release) : (b.queue r).waiting = b.waiting ++ [r] := by
  simp [waiting, queue, Reclaimer.retire]

theorem foldl_release (rs : List Release) (b : Bridge) :
    rs.foldl release b = { b with
      ports := Release.allOnPorts rs b.ports
      vlans := Release.allOnVlans rs b.vlans } := by
  induction rs generalizing b with
  | nil => rfl
  | cons r rs ih =>
    rw [List.foldl_cons, ih]
    cases r <;> rfl

/-- Nothing changes but what releases may change: which slots are busy, the withdrawn records, and what
waits. -/
structure Housekeeping (b c : Bridge) : Prop where
  fdb : c.fdb = b.fdb
  counters : c.counters = b.counters
  clock : c.clock = b.clock
  config : c.config = b.config
  network : c.network = b.network
  trap : c.trap = b.trap
  nextSweep : c.nextSweep = b.nextSweep
  port? : ∀ i, c.ports.port? i = b.ports.port? i
  generation : ∀ i, c.ports.generation i = b.ports.generation i
  active : c.ports.active = b.ports.active
  published : c.vlans.published = b.vlans.published

theorem housekeeping_reclaim (b : Bridge) : Housekeeping b b.reclaim.1 := by
  have hfold : b.reclaim.1 = _ :=
    foldl_release b.toLearning.reclaim.2 (b.withLearning b.toLearning.reclaim.1)
  rw [hfold]
  exact ⟨rfl, rfl, rfl, rfl, rfl, rfl, rfl, Release.port?_allOnPorts _ _,
    Release.generation_allOnPorts _ _, Release.active_allOnPorts _ _,
    Release.published_allOnVlans _ _⟩

/-- A release is queued, and others run. -/
theorem housekeeping_retire (b : Bridge) (r : Release) : Housekeeping b (b.retire r) := by
  obtain ⟨hfdb, hcounters, hclock, hconfig, hnetwork, htrap, hsweep, hport, hgeneration, hactive,
    hpublished⟩ := housekeeping_reclaim (b.queue r)
  exact ⟨hfdb, hcounters, hclock, hconfig, hnetwork, htrap, hsweep, hport, hgeneration, hactive,
    hpublished⟩

/-- Whatever runs in a reclaim, no slot gets or loses a port and no VLAN comes or goes. -/
theorem reclaim_tables (b : Bridge) :
    (∀ i, b.reclaim.1.ports.port? i = b.ports.port? i) ∧
      b.reclaim.1.vlans.published = b.vlans.published ∧ b.reclaim.1.fdb = b.fdb ∧
      b.reclaim.1.config = b.config := by
  have hreclaim := b.housekeeping_reclaim
  exact ⟨hreclaim.port?, hreclaim.published, hreclaim.fdb, hreclaim.config⟩

/-- A reclaim runs what no guard holds up. -/
theorem reclaim_eq_of_tracks (ht : b.reclaimer.Tracks guards) :
    b.reclaim.1 = { b with
      reclaimer := (b.reclaimer.reclaim fun _ => []).1
      ports := Release.allOnPorts (b.ready guards) b.ports
      vlans := Release.allOnVlans (b.ready guards) b.vlans } := by
  have hran : (b.reclaimer.reclaim fun _ => []).2 = b.ready guards := Reclaimer.released_reclaim ht _
  have hfold := foldl_release (b.reclaimer.reclaim fun _ => []).2
    (b.withLearning { b.toLearning with reclaimer := (b.reclaimer.reclaim fun _ => []).1 })
  rw [hran] at hfold
  simp only [reclaim, Learning.reclaim, hran]
  exact hfold

/-- At rest a reclaim runs everything that waits. -/
theorem reclaim_eq (ht : b.reclaimer.Tracks []) :
    b.reclaim.1 = { b with
      reclaimer := (b.reclaimer.reclaim fun _ => []).1
      ports := Release.allOnPorts b.waiting b.ports
      vlans := Release.allOnVlans b.waiting b.vlans } := by
  rw [reclaim_eq_of_tracks ht, ready_nil]

theorem queue_reclaim (ht : b.reclaimer.Tracks guards) :
    b.reclaim.1.reclaimer.queue =
      b.reclaimer.queue.filter fun q => !Reclaimer.precedes guards q := by
  have hcollect := ht.collect.2.1
  rw [reclaim_eq_of_tracks ht]
  simp only [Reclaimer.reclaim, Reclaimer.queue_foldl_retire, hcollect, List.append_right_eq_self,
    List.map_eq_nil_iff, List.flatMap_eq_nil_iff, implies_true]

theorem waiting_reclaim_of_tracks (ht : b.reclaimer.Tracks guards) :
    b.reclaim.1.waiting = b.blocked guards := by
  rw [waiting, queue_reclaim ht]
  rfl

theorem waiting_reclaim (ht : b.reclaimer.Tracks []) : b.reclaim.1.waiting = [] := by
  rw [waiting_reclaim_of_tracks ht, blocked_nil]

theorem tracks_reclaim (ht : b.reclaimer.Tracks guards) : b.reclaim.1.reclaimer.Tracks guards := by
  rw [reclaim_eq_of_tracks ht]
  exact ht.reclaim _

theorem tracks_without (h : b.reclaimer.Tracks guards) (t : Fdb) (gone : List Entry) :
    (b.toLearning.without t gone).reclaimer.Tracks guards := by
  unfold Learning.without
  by_cases hg : gone.isEmpty = true
  · simp only [hg, if_true]
    exact h
  · simp only [hg, if_false, Bool.false_eq_true]
    exact h.retire _

/-! ### Releases at rest -/

/-- Nothing waits for its release but entries. -/
def OnlyEntriesWait (b : Bridge) : Prop := ∀ r ∈ b.waiting, r = .entries

theorem OnlyEntriesWait.of_pending (h : b.reclaimer.pending = 0) : b.OnlyEntriesWait := by
  have hqueue : b.reclaimer.queue = [] := List.length_eq_zero_iff.1 h
  intro r hr
  rw [waiting, hqueue] at hr
  cases hr

theorem OnlyEntriesWait.without (h : b.OnlyEntriesWait) (t : Fdb) (gone : List Entry) :
    (b.withLearning (b.toLearning.without t gone)).OnlyEntriesWait := by
  intro r hr
  unfold withLearning Learning.without waiting at hr
  by_cases hg : gone.isEmpty = true
  · simp only [hg, if_true] at hr
    exact h r hr
  · simp only [hg, if_false, Bool.false_eq_true] at hr
    change r ∈ (b.queue .entries).waiting at hr
    rw [waiting_queue] at hr
    rcases List.mem_append.1 hr with hr | hr
    · exact h r hr
    · exact List.mem_singleton.1 hr

theorem pending_reclaim (ht : b.reclaimer.Tracks []) : b.reclaim.1.reclaimer.pending = 0 := by
  have hdone := congrArg List.length (waiting_reclaim ht)
  rwa [waiting, List.length_map] at hdone

theorem OnlyEntriesWait.reclaim_eq (h : b.OnlyEntriesWait) (ht : b.reclaimer.Tracks []) :
    b.reclaim.1 = { b with reclaimer := b.reclaim.1.reclaimer } := by
  obtain ⟨hports, hvlans⟩ := Release.allOn_of_entries h b.ports b.vlans
  rw [Bridge.reclaim_eq ht, hports, hvlans]

/-- A release that nothing holds up runs as soon as it is queued. -/
theorem OnlyEntriesWait.retire_eq (h : b.OnlyEntriesWait) (ht : b.reclaimer.Tracks [])
    (r : Release) :
    ∃ s : Reclaimer Release, s.pending = 0 ∧ b.retire r = { b.release r with reclaimer := s } := by
  have htracks : (b.queue r).reclaimer.Tracks [] := ht.retire r
  obtain ⟨hports, hvlans⟩ := Release.allOn_of_entries h b.ports b.vlans
  have hreclaim := Bridge.reclaim_eq htracks
  rw [waiting_queue, Release.allOnPorts, Release.allOnVlans, List.foldl_append, List.foldl_append]
    at hreclaim
  refine ⟨(b.queue r).reclaim.1.reclaimer, pending_reclaim htracks, ?_⟩
  show (b.queue r).reclaim.1 = _
  rw [hreclaim]
  show ({ b with
    reclaimer := _
    ports := r.onPorts (Release.allOnPorts b.waiting b.ports)
    vlans := r.onVlans (Release.allOnVlans b.waiting b.vlans) } : Bridge) = _
  rw [hports, hvlans]
  cases r <;> rfl

/-! ### What the tables keep to -/

structure Sound (b : Bridge) (guards : List Guard := []) : Prop where
  ports : b.ports.Sound
  vlans : b.vlans.Sound
  entries : b.fdb.Sorted
  tracks : b.reclaimer.Tracks guards
  busy : ∀ i, i ∈ b.ports.busy ↔ b.ports.Holds i ∨ Release.slot i ∈ b.waiting
  apart : ∀ i, Release.slot i ∈ b.waiting → ¬ b.ports.Holds i
  once : ∀ i, b.waiting.count (.slot i) ≤ 1

/-- A free slot holds no port and waits for nothing. -/
theorem Sound.of_firstFree? (hs : b.Sound guards) {i : PortIndex}
    (hi : b.ports.busy.firstFree? = some i) :
    b.ports.port? i = none ∧ Release.slot i ∉ b.waiting := by
  have hfree := mt (hs.busy i).2 (PortSet.firstFree?_eq_some hi)
  refine ⟨?_, fun h => hfree (Or.inr h)⟩
  cases hp : b.ports.port? i with
  | none => rfl
  | some p => exact absurd (Or.inl (PortTable.holds_iff.2 ⟨p, hp⟩)) hfree

theorem count_queue (b : Bridge) (r : Release) (i : PortIndex) :
    (b.queue r).waiting.count (.slot i) =
      b.waiting.count (.slot i) + if r = .slot i then 1 else 0 := by
  rw [waiting_queue, List.count_append, List.count_singleton]
  simp only [beq_iff_eq]

theorem Sound.once_queue (hs : b.Sound guards) {r : Release}
    (hr : ∀ i, r = .slot i → Release.slot i ∉ b.waiting) (i : PortIndex) :
    (b.queue r).waiting.count (.slot i) ≤ 1 := by
  have hone := hs.once i
  rw [count_queue]
  split
  · have hzero := List.count_eq_zero.2 (hr i ‹_›)
    omega
  · exact hone

/-- Taking entries out of the forwarding table brings in no release but theirs. -/
theorem Sound.without (hs : b.Sound guards) {t : Fdb} (ht : t.Sorted) (gone : List Entry) :
    (b.withLearning (b.toLearning.without t gone)).Sound guards := by
  have hcount : ∀ i, (b.withLearning (b.toLearning.without t gone)).waiting.count (.slot i) =
      b.waiting.count (.slot i) := by
    intro i
    unfold withLearning Learning.without
    by_cases hg : gone.isEmpty = true
    · simp only [hg, if_true, waiting]
    · simp only [hg, if_false, Bool.false_eq_true]
      exact count_queue b .entries i
  have hslot : ∀ i, Release.slot i ∈ (b.withLearning (b.toLearning.without t gone)).waiting ↔
      Release.slot i ∈ b.waiting := by
    intro i
    rw [← List.count_pos_iff, hcount, List.count_pos_iff]
  refine ⟨hs.ports, hs.vlans, ht, tracks_without hs.tracks t gone, ?_, ?_, ?_⟩
  · intro i
    rw [hslot]
    exact hs.busy i
  · intro i hi
    exact hs.apart i ((hslot i).1 hi)
  · intro i
    rw [hcount]
    exact hs.once i

/-- A release that is ready is not one of those that are held up, since it waits only once. -/
theorem Sound.not_mem_ready (hs : b.Sound guards) {i : PortIndex}
    (hi : Release.slot i ∈ b.blocked guards) : Release.slot i ∉ b.ready guards := by
  intro hready
  have hone := hs.once i
  have hcount := (b.perm_ready_blocked guards).count_eq (Release.slot i)
  rw [List.count_append] at hcount
  have hr := List.count_pos_iff.2 hready
  have hb := List.count_pos_iff.2 hi
  omega

theorem Sound.reclaim (hs : b.Sound guards) : b.reclaim.1.Sound guards := by
  have hwaiting := waiting_reclaim_of_tracks hs.tracks
  have htracks := tracks_reclaim hs.tracks
  have hmem : ∀ r, r ∈ b.waiting ↔ r ∈ b.ready guards ∨ r ∈ b.blocked guards := by
    intro r
    rw [← (b.perm_ready_blocked guards).mem_iff, List.mem_append]
  rw [reclaim_eq_of_tracks hs.tracks] at hwaiting htracks ⊢
  refine ⟨⟨?_, ?_⟩, Release.sound_allOnVlans _ hs.vlans, hs.entries, htracks, ?_, ?_, ?_⟩
  · intro i p hp
    rw [Release.port?_allOnPorts] at hp
    exact hs.ports.index i p hp
  · intro i
    show i ∈ (Release.allOnPorts (b.ready guards) b.ports).active ↔ _
    rw [Release.active_allOnPorts, hs.ports.active, PortTable.Holds, PortTable.Holds,
      Release.port?_allOnPorts]
  · intro i
    rw [hwaiting, PortTable.Holds, Release.port?_allOnPorts]
    show i ∈ (Release.allOnPorts (b.ready guards) b.ports).busy ↔ b.ports.Holds i ∨ _
    rw [Release.mem_busy_allOnPorts, hs.busy, hmem]
    constructor
    · rintro ⟨h | h | h, hn⟩
      · exact Or.inl h
      · exact absurd h hn
      · exact Or.inr h
    · rintro (h | h)
      · exact ⟨Or.inl h, fun hr => hs.apart i ((hmem _).2 (Or.inl hr)) h⟩
      · exact ⟨Or.inr (Or.inr h), hs.not_mem_ready h⟩
  · intro i hi
    rw [hwaiting] at hi
    have hnone := hs.apart i ((hmem _).2 (Or.inr hi))
    rw [PortTable.Holds, Release.port?_allOnPorts]
    exact hnone
  · intro i
    have hcount := (b.perm_ready_blocked guards).count_eq (Release.slot i)
    have hone := hs.once i
    rw [List.count_append] at hcount
    rw [hwaiting]
    omega

/-! ### Ports come and go -/

theorem Sound.portAdded (hs : b.Sound guards) {i : PortIndex} (name : String) (endpoint : Endpoint)
    (ingress : IngressDefaults) (hi : b.ports.busy.firstFree? = some i) :
    (({ b with ports := (b.ports.install i name endpoint ingress).1 } :
      Bridge).joinDefaultVlan i).Sound guards := by
  obtain ⟨-, hwait⟩ := hs.of_firstFree? hi
  refine ⟨hs.ports.install_activate i name endpoint ingress,
    hs.vlans.modify Vid.zero (·.attach i false), hs.entries, hs.tracks, ?_, ?_, hs.once⟩
  · intro j
    show j ∈ b.ports.busy.insert i ↔
      (b.ports.install i name endpoint ingress).1.Holds j ∨ Release.slot j ∈ b.waiting
    rw [PortSet.mem_insert, PortTable.holds_install, hs.busy, or_assoc, @eq_comm _ j i]
  · intro j hj hheld
    rcases PortTable.holds_install.1 hheld with rfl | hheld
    · exact hwait hj
    · exact hs.apart j hj hheld

theorem Sound.portRefused (hs : b.Sound guards) {i : PortIndex} (name : String) (endpoint : Endpoint)
    (ingress : IngressDefaults) (hi : b.ports.busy.firstFree? = some i) :
    (({ b with ports := (b.ports.install i name endpoint ingress).1.clear i } :
      Bridge).queue (.slot i)).Sound guards := by
  obtain ⟨hnone, hwait⟩ := hs.of_firstFree? hi
  have hsame : ∀ j, ((b.ports.install i name endpoint ingress).1.clear i).Holds j ↔
      b.ports.Holds j := by
    intro j
    unfold PortTable.Holds
    rw [PortTable.port?_install_clear hnone]
  refine ⟨hs.ports.install_clear hnone name endpoint ingress, hs.vlans, hs.entries,
    hs.tracks.retire _, ?_, ?_, hs.once_queue fun j hj => Release.slot.inj hj ▸ hwait⟩
  · intro j
    show j ∈ b.ports.busy.insert i ↔
      ((b.ports.install i name endpoint ingress).1.clear i).Holds j ∨
        Release.slot j ∈ (b.queue (.slot i)).waiting
    rw [waiting_queue, hsame, PortSet.mem_insert, hs.busy, List.mem_append, List.mem_singleton,
      Release.slot.injEq, or_comm, or_assoc]
  · intro j hj
    have hj : Release.slot j ∈ (b.queue (.slot i)).waiting := hj
    show ¬ ((b.ports.install i name endpoint ingress).1.clear i).Holds j
    rw [waiting_queue] at hj
    rw [hsame]
    rcases List.mem_append.1 hj with hj | hj
    · exact hs.apart j hj
    · cases List.mem_singleton.1 hj
      rw [PortTable.Holds, hnone]
      exact Bool.false_ne_true

theorem Sound.portDeleted (hs : b.Sound guards) {i : PortIndex} {p : Port}
    (hp : b.ports.port? i = some p) :
    (({ b with
      ports := b.ports.clear i
      vlans := (b.vlans.detachAll p.index).1 } : Bridge).queue (.slot p.index)).Sound guards := by
  have hindex := hs.ports.index i p hp
  have hheld : b.ports.Holds i := PortTable.holds_iff.2 ⟨p, hp⟩
  have hslot : ∀ j, Release.slot j ∈ (b.queue (.slot p.index)).waiting ↔
      Release.slot j ∈ b.waiting ∨ j = i := by
    intro j
    rw [waiting_queue, List.mem_append, List.mem_singleton, Release.slot.injEq, hindex]
  have hfirst : ∀ j, Release.slot p.index = .slot j → Release.slot j ∉ b.waiting := by
    intro j hj hw
    rw [← Release.slot.inj hj, hindex] at hw
    exact hs.apart i hw hheld
  refine ⟨hs.ports.clear i, hs.vlans.detachAll p.index, hs.entries, hs.tracks.retire _, ?_, ?_,
    hs.once_queue hfirst⟩
  · intro j
    show j ∈ b.ports.busy ↔ (b.ports.clear i).Holds j ∨
      Release.slot j ∈ (b.queue (.slot p.index)).waiting
    rw [hslot, PortTable.holds_clear, hs.busy]
    by_cases hij : i = j
    · subst hij
      exact ⟨fun _ => Or.inr (Or.inr rfl), fun _ => Or.inl hheld⟩
    · have hji : ¬ j = i := fun e => hij e.symm
      simp only [ne_eq, hij, not_false_eq_true, true_and, hji, or_false]
  · intro j hj hclear
    obtain ⟨hne, hclear⟩ := PortTable.holds_clear.1 hclear
    rcases (hslot j).1 hj with hj | rfl
    · exact hs.apart j hj hclear
    · exact hne rfl

theorem Sound.setPorts (hs : b.Sound guards) {ports : PortTable} (hports : ports.Sound)
    (hbusy : ports.busy = b.ports.busy) (hheld : ∀ j, ports.Holds j ↔ b.ports.Holds j) :
    ({ b with ports } : Bridge).Sound guards := by
  refine ⟨hports, hs.vlans, hs.entries, hs.tracks, ?_, ?_, hs.once⟩
  · intro j
    show j ∈ ports.busy ↔ ports.Holds j ∨ _
    rw [hheld, hbusy]
    exact hs.busy j
  · intro j hj h
    exact hs.apart j hj ((hheld j).1 h)

theorem Sound.vlanDeleted (hs : b.Sound guards) {vid : Vid} {vlans : VlanDb} {gone : VlanRecord}
    (h : b.vlans.delete vid = .ok (vlans, gone)) (f : Port → Port)
    (hf : ∀ p, (f p).index = p.index) :
    (({ b with ports := b.ports.mapPorts f, vlans } : Bridge).queue (.vlan gone.serial)).Sound
      guards := by
  have hp := hs.setPorts (hs.ports.mapPorts hf) rfl fun _ => PortTable.holds_mapPorts
  have hslot : ∀ j, Release.slot j ∈ (b.queue (.vlan gone.serial)).waiting →
      Release.slot j ∈ b.waiting := by
    intro j hj
    rw [waiting_queue] at hj
    exact (List.mem_append.1 hj).resolve_right fun h => nomatch List.mem_singleton.1 h
  refine ⟨hp.ports, hs.vlans.delete h, hs.entries, hs.tracks.retire _, ?_, ?_,
    hs.once_queue fun j hj => nomatch hj⟩
  · intro j
    refine (hp.busy j).trans (or_congr_right ⟨fun hj => ?_, fun hj => hslot j hj⟩)
    show Release.slot j ∈ (b.queue (.vlan gone.serial)).waiting
    rw [waiting_queue]
    exact List.mem_append_left _ hj
  · intro j hj
    exact hp.apart j (hslot j hj)

/-! ### All transitions -/

theorem Sound.aside {c : Bridge} (hs : b.Sound guards) (h : Aside b c) : c.Sound guards := by
  have hw : c.waiting = b.waiting := by rw [waiting, waiting, h.reclaimer]
  refine ⟨?_, ?_, ?_, ?_, ?_, ?_, ?_⟩
  · rw [h.ports]
    exact hs.ports
  · rw [h.vlans]
    exact hs.vlans
  · rw [h.fdb]
    exact hs.entries
  · rw [h.reclaimer]
    exact hs.tracks
  · rw [h.ports, hw]
    exact hs.busy
  · rw [h.ports, hw]
    exact hs.apart
  · rw [hw]
    exact hs.once

theorem Sound.setVlans (hs : b.Sound guards) {vlans : VlanDb} (hvlans : vlans.Sound) :
    ({ b with vlans } : Bridge).Sound guards :=
  ⟨hs.ports, hvlans, hs.entries, hs.tracks, hs.busy, hs.apart, hs.once⟩

theorem Sound.transition {c : Bridge} (hs : b.Sound guards) (h : Transition b c) :
    c.Sound guards := by
  cases h with
  | aside h => exact hs.aside h
  | reclaimed => exact hs.reclaim
  | portAdded endpoint ingress hi hname => exact hs.portAdded _ endpoint ingress hi
  | portRefused name endpoint ingress hi => exact hs.portRefused name endpoint ingress hi
  | portDeleted hlocal hp hfree => exact hs.portDeleted hp
  | portSet f hp hfixed hpvid =>
    have hindex := fun q => Port.index_eq_of_fixed_eq (hfixed q)
    exact hs.setPorts (hs.ports.modify _ hindex) rfl fun _ => PortTable.holds_modify
  | vlanCreated h => exact hs.setVlans (hs.vlans.create h)
  | vlanDeleted h hfree =>
    refine hs.vlanDeleted h _ fun p => ?_
    split <;> rfl
  | vlanEdited hf ho hv => exact hs.setVlans (hs.vlans.modify _ _)
  | learned src now hp hv =>
    exact ⟨hs.ports, hs.vlans, hs.entries.learn .., hs.tracks, hs.busy, hs.apart, hs.once⟩
  | flushed f port now => exact hs.without (hs.entries.flushPort f port now) _
  | entryAdded hv hports h =>
    obtain ⟨t, replaced, hadd, rfl⟩ := Learning.addStatic_eq_ok h
    obtain ⟨-, rfl⟩ := Fdb.addStatic_eq_ok hadd
    exact hs.without (hs.entries.insert _) _
  | entryRemoved h =>
    obtain ⟨t, e, hremove, rfl⟩ := Learning.remove_eq_ok h
    have ht : t.Sorted := by
      rw [Fdb.remove_eq_ok hremove]
      exact Ordered.ascending_filter _ hs.entries
    exact hs.without ht _

theorem sound_of_create {config : BridgeConfig} {network : Network}
    (h : Bridge.create config network = .ok b) : b.Sound := by
  rw [create_eq_ok h]
  refine ⟨PortTable.Sound.ofName _, (VlanDb.Sound.initial config.defaultLearning).modify
    Vid.zero (·.attach localPort false), List.Pairwise.nil, Reclaimer.Tracks.empty, ?_, ?_,
    fun _ => Nat.zero_le _⟩
  · intro i
    show i ∈ PortSet.insert ∅ localPort ↔
      (PortTable.ofName config.name).Holds i ∨ Release.slot i ∈ []
    rw [PortSet.mem_insert, PortTable.Holds, PortTable.port?_ofName]
    by_cases hi : localPort = i
    · simp [hi]
    · have hsymm : ¬ i = localPort := fun e => hi e.symm
      simp [hi, hsymm]
  · intro i hi
    cases hi

theorem Reachable.sound (hb : b.Reachable) : b.Sound :=
  Reachable.induction sound_of_create Sound.transition hb

theorem Sound.path {c : Bridge} (hs : b.Sound guards) (h : Path b c) : c.Sound guards := by
  induction h with
  | refl => exact hs
  | tail _ h ih => exact ih.transition h

end Bridge

end VlanBridge
