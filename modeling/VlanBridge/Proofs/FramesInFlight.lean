import VlanBridge.Proofs.Handles
/-!
# Slots while frames are in flight

A frame in flight holds a guard from the bridge's reclaimer until it has been sent, and the bridge may be
worked on meanwhile. `Transit` is a bridge with the guards that are held; guards are told apart by the
time of their taking. A slot that held a port while a guard was held stays busy for as long as the guard
is held (`Keeps`): it holds the port still, or its release was queued in an epoch that the guard holds up.
-/

namespace VlanBridge

open VlanBridge.Net

namespace Bridge

variable {b : Bridge} {guards : List Guard}

/-- The slot holds a port, or the guard holds up its release. -/
def Keeps (b : Bridge) (g : Guard) (i : PortIndex) : Prop :=
  b.ports.Holds i ∨ ∃ q ∈ b.reclaimer.queue, q.release = .slot i ∧ g.epoch ≤ q.epoch

theorem Keeps.mono {c : Bridge} {g : Guard} {i : PortIndex} (hk : b.Keeps g i)
    (hheld : b.ports.Holds i → c.ports.Holds i)
    (hqueue : ∀ q ∈ b.reclaimer.queue, q ∈ c.reclaimer.queue) : c.Keeps g i := by
  rcases hk with hk | ⟨q, hq, hslot, hle⟩
  · exact Or.inl (hheld hk)
  · exact Or.inr ⟨q, hqueue q hq, hslot, hle⟩

theorem mem_queue_without {t : Fdb} {gone : List Entry} {q : Queued Release}
    (hq : q ∈ b.reclaimer.queue) : q ∈ (b.toLearning.without t gone).reclaimer.queue := by
  unfold Learning.without
  by_cases hg : gone.isEmpty = true
  · simp only [hg, if_true]
    exact hq
  · simp only [hg, if_false, Bool.false_eq_true]
    exact List.mem_append_left _ hq

theorem Keeps.reclaim (ht : b.reclaimer.Tracks guards) {g : Guard} (hg : g ∈ guards)
    {i : PortIndex} (hk : b.Keeps g i) : b.reclaim.1.Keeps g i := by
  rcases hk with hk | ⟨q, hq, hslot, hle⟩
  · refine Or.inl ?_
    rw [PortTable.Holds, b.reclaim_tables.1]
    exact hk
  · refine Or.inr ⟨q, ?_, hslot, hle⟩
    have hlate : ¬ Reclaimer.precedes guards q = true := by
      intro hbefore
      have hlt := Reclaimer.precedes_iff.1 hbefore g hg
      omega
    rw [queue_reclaim ht, List.mem_filter]
    exact ⟨hq, by simpa using hlate⟩

theorem Keeps.portDeleted (hs : b.Sound guards) {g : Guard} (hg : g ∈ guards) {i j : PortIndex}
    {p : Port} (hp : b.ports.port? j = some p) (hk : b.Keeps g i) :
    (({ b with
      ports := b.ports.clear j
      vlans := (b.vlans.detachAll p.index).1 } : Bridge).queue (.slot p.index)).Keeps g i := by
  rcases hk with hk | ⟨q, hq, hslot, hle⟩
  · by_cases hji : j = i
    · -- its release is queued in this epoch, and the guard is of no later one
      have hindex := hs.ports.index j p hp
      have hnear := (hs.tracks.near g hg).1
      exact Or.inr ⟨⟨b.reclaimer.epoch, .slot p.index⟩,
        List.mem_append_right _ (List.mem_singleton.2 rfl), by rw [hindex, hji], hnear⟩
    · exact Or.inl (PortTable.holds_clear.2 ⟨hji, hk⟩)
  · exact Or.inr ⟨q, List.mem_append_left _ hq, hslot, hle⟩

theorem Keeps.transition {c : Bridge} (hs : b.Sound guards) {g : Guard} (hg : g ∈ guards)
    {i : PortIndex} (hk : b.Keeps g i) (h : Transition b c) : c.Keeps g i := by
  cases h with
  | aside h =>
    refine hk.mono ?_ ?_
    · rw [h.ports]
      exact id
    · rw [h.reclaimer]
      exact fun _ => id
  | reclaimed => exact hk.reclaim hs.tracks hg
  | portAdded endpoint ingress hi hname =>
    exact hk.mono (fun hheld => PortTable.holds_install.2 (Or.inr hheld)) fun _ => id
  | @portRefused j name endpoint ingress hj =>
    refine hk.mono ?_ fun _ hq => List.mem_append_left _ hq
    intro hheld
    show ((b.ports.install j name endpoint ingress).1.clear j).Holds i
    rw [PortTable.Holds, PortTable.port?_install_clear (hs.of_firstFree? hj).1]
    exact hheld
  | portDeleted hlocal hp hfree => exact hk.portDeleted hs hg hp
  | portSet f hp hfixed hpvid => exact hk.mono PortTable.holds_modify.2 fun _ => id
  | vlanDeleted h hfree =>
    exact hk.mono PortTable.holds_mapPorts.2 fun _ hq => List.mem_append_left _ hq
  | vlanCreated | vlanEdited | learned => exact hk.mono id fun _ => id
  | flushed => exact hk.mono id fun _ hq => mem_queue_without hq
  | entryAdded hv hports h =>
    obtain ⟨t, replaced, -, rfl⟩ := Learning.addStatic_eq_ok h
    exact hk.mono id fun _ hq => mem_queue_without hq
  | entryRemoved h =>
    obtain ⟨t, e, -, rfl⟩ := Learning.remove_eq_ok h
    exact hk.mono id fun _ hq => mem_queue_without hq

theorem Keeps.path {c : Bridge} (hs : b.Sound guards) {g : Guard} (hg : g ∈ guards)
    {i : PortIndex} (hk : b.Keeps g i) (h : Path b c) : c.Keeps g i := by
  induction h with
  | refl => exact hk
  | tail hpath hlast ih => exact ih.transition (hs.path hpath) hg hlast

theorem Sound.busy_of_keeps (hs : b.Sound guards) {g : Guard} {i : PortIndex} (hk : b.Keeps g i) :
    i ∈ b.ports.busy := by
  rw [hs.busy]
  rcases hk with hk | ⟨q, hq, hslot, -⟩
  · exact Or.inl hk
  · exact Or.inr (List.mem_map.2 ⟨q, hq, hslot⟩)

/-- Taking and giving back guards changes nothing but what the reclaimer counts. -/
theorem Sound.setReaders (hs : b.Sound guards) {r : Reclaimer Release} {others : List Guard}
    (hqueue : r.queue = b.reclaimer.queue) (ht : r.Tracks others) :
    ({ b with reclaimer := r } : Bridge).Sound others := by
  have hwaiting : ({ b with reclaimer := r } : Bridge).waiting = b.waiting := by
    rw [waiting, waiting, hqueue]
  refine ⟨hs.ports, hs.vlans, hs.entries, ht, ?_, ?_, ?_⟩
  · rw [hwaiting]
    exact hs.busy
  · rw [hwaiting]
    exact hs.apart
  · rw [hwaiting]
    exact hs.once

end Bridge

/-- A bridge and the guards that frames in flight hold. -/
structure Transit where
  bridge : Bridge
  held : List Held := []
  time : Nat := 0

namespace Transit

inductive Step where
  | event (e : Event)
  /-- A frame sets out. -/
  | pin
  /-- The frame of a guard has arrived. -/
  | drop (h : Held)

def next (s : Transit) : Step → Transit
  | .event e => { s with bridge := s.bridge.next e }
  | .pin =>
    { bridge := { s.bridge with reclaimer := s.bridge.reclaimer.pin.1 }
      held := ⟨s.time, s.bridge.reclaimer.pin.2⟩ :: s.held
      time := s.time + 1 }
  | .drop h =>
    if h ∈ s.held then
      { s with
        bridge := { s.bridge with reclaimer := s.bridge.reclaimer.unpin h.guard }
        held := s.held.erase h }
    else s

def run (s : Transit) (steps : List Step) : Transit := steps.foldl next s

inductive Reachable : Transit → Prop where
  | create {config : BridgeConfig} {network : Network} {b : Bridge} :
      Bridge.create config network = .ok b → Reachable { bridge := b }
  | next {s : Transit} (step : Step) : Reachable s → Reachable (s.next step)

theorem Reachable.run {s : Transit} (hs : s.Reachable) (steps : List Step) :
    (s.run steps).Reachable := by
  induction steps generalizing s with
  | nil => exact hs
  | cons step steps ih => exact ih (hs.next step)

def guards (s : Transit) : List Guard := s.held.map (·.guard)

def Sound (s : Transit) : Prop := s.bridge.Sound s.guards

variable {s : Transit}

theorem Sound.next (hs : s.Sound) (step : Step) : (s.next step).Sound := by
  cases step with
  | event e => exact Bridge.Sound.path hs (Bridge.next_path s.bridge e)
  | pin =>
    exact Bridge.Sound.setReaders hs (Reclaimer.pin_queue _) (Bridge.Sound.tracks hs).pin
  | drop h =>
    unfold Transit.next
    simp only
    split
    · rename_i hh
      have hperm := (List.perm_cons_erase hh).map (·.guard)
      exact Bridge.Sound.setReaders hs (Reclaimer.unpin_queue _ _)
        ((Bridge.Sound.tracks hs).perm hperm).unpin
    · exact hs

theorem Reachable.sound (hs : s.Reachable) : s.Sound := by
  induction hs with
  | create h => exact Bridge.sound_of_create h
  | next step _ ih => exact ih.next step

/-- What a new bridge has, and what neither a transition nor the taking and giving back of guards takes
away, a bridge has whatever is in flight. -/
theorem Reachable.induction {P : Bridge → Prop}
    (create : ∀ {config network b}, Bridge.create config network = .ok b → P b)
    (transition : ∀ {b c guards}, Bridge.Sound b guards → P b → Bridge.Transition b c → P c)
    (readers : ∀ {b} (r : Reclaimer Release), P b → P { b with reclaimer := r })
    (hs : s.Reachable) : P s.bridge := by
  induction hs with
  | create h => exact create h
  | @next s step hs ih =>
    cases step with
    | event e =>
      have hpath : Bridge.Path s.bridge (s.bridge.next e) := Bridge.next_path s.bridge e
      show P (s.bridge.next e)
      generalize s.bridge.next e = c at hpath
      induction hpath with
      | refl => exact ih
      | tail hpath hlast ih => exact transition (Bridge.Sound.path hs.sound hpath) ih hlast
    | pin => exact readers _ ih
    | drop h =>
      unfold Transit.next
      simp only
      split
      · exact readers _ ih
      · exact ih

/-- A guard that is held keeps the slot through every step but its own dropping. -/
theorem Sound.keeps_next (hs : s.Sound) {h : Held} (hh : h ∈ s.held) {i : PortIndex}
    (hk : s.bridge.Keeps h.guard i) {step : Step} (hstep : step ≠ .drop h) :
    h ∈ (s.next step).held ∧ (s.next step).bridge.Keeps h.guard i := by
  have hmem : h.guard ∈ s.guards := List.mem_map_of_mem hh
  cases step with
  | event e => exact ⟨hh, hk.path hs hmem (Bridge.next_path s.bridge e)⟩
  | pin =>
    refine ⟨List.mem_cons_of_mem _ hh, hk.mono id ?_⟩
    intro q hq
    exact s.bridge.reclaimer.pin_queue ▸ hq
  | drop a =>
    unfold Transit.next
    simp only
    split
    · have hne : h ≠ a := by
        rintro rfl
        exact hstep rfl
      refine ⟨(List.mem_erase_of_ne hne).2 hh, hk.mono id ?_⟩
      intro q hq
      exact s.bridge.reclaimer.unpin_queue a.guard ▸ hq
    · exact ⟨hh, hk⟩

theorem Sound.busy_run (hs : s.Sound) {h : Held} (hh : h ∈ s.held) {i : PortIndex}
    (hk : s.bridge.Keeps h.guard i) {steps : List Step} (hsteps : .drop h ∉ steps) :
    i ∈ (s.run steps).bridge.ports.busy := by
  induction steps generalizing s with
  | nil => exact Bridge.Sound.busy_of_keeps hs hk
  | cons step steps ih =>
    rw [List.mem_cons, not_or] at hsteps
    obtain ⟨hfirst, hrest⟩ := hsteps
    obtain ⟨hh, hk⟩ := hs.keeps_next hh hk (Ne.symm hfirst)
    exact ih (hs.next step) hh hk hrest

theorem index_ne_of_busy {b : Bridge} {i : PortIndex} (hi : i ∈ b.ports.busy) {e : Event}
    {k : Handle} (he : b.handed? e = some k) : k.index ≠ i.val := by
  obtain ⟨id, ingress, hok, -⟩ := Bridge.handed?_eq_some he
  obtain ⟨j, hj, rfl, -⟩ := Bridge.portAdd_eq_ok hok
  intro hij
  cases Fin.ext hij
  exact PortSet.firstFree?_eq_some hj hi

/-- The busy slots are those that hold a port or wait for a release. While a guard is held, the slot of a
port that is deleted meanwhile is not given to a new port, and if no guard is held, a reclaim leaves
only those slots busy that hold a port. -/
theorem slots_reused_after_guards (hs : s.Reachable) :
    (∀ i, i ∈ s.bridge.ports.busy ↔
      s.bridge.ports.Holds i ∨ Release.slot i ∈ s.bridge.waiting) ∧
    (∀ h ∈ s.held, ∀ i : PortIndex, (s.bridge.portDel i.val).2 = .ok () →
      ∀ steps, .drop h ∉ steps → ∀ e k,
        ((s.next (.event (.perform (.portDel i.val) trivial))).run steps).bridge.handed? e = some k →
          k.index ≠ i.val) ∧
    (∀ h ∈ s.held, ∀ i, s.bridge.ports.Holds i → ∀ steps, .drop h ∉ steps → ∀ e k,
      (s.run steps).bridge.handed? e = some k → k.index ≠ i.val) ∧
    (s.held = [] → ∀ i, i ∈ s.bridge.reclaim.1.ports.busy ↔ s.bridge.reclaim.1.ports.Holds i) := by
  have hsound := hs.sound
  have hmeanwhile : ∀ h ∈ s.held, ∀ i, s.bridge.ports.Holds i → ∀ steps, .drop h ∉ steps →
      ∀ e k, (s.run steps).bridge.handed? e = some k → k.index ≠ i.val := by
    intro h hh i hheld steps hsteps e k he
    exact index_ne_of_busy (hsound.busy_run hh (Or.inl hheld) hsteps) he
  refine ⟨Bridge.Sound.busy hsound, ?_, hmeanwhile, ?_⟩
  · intro h hh i hok steps hsteps e k he
    obtain ⟨j, hj, hheld, -⟩ := Bridge.portDel_eq_ok hok
    cases Fin.ext hj
    refine hmeanwhile h hh i hheld (.event (.perform (.portDel i.val) trivial) :: steps) ?_ e k he
    rw [List.mem_cons, not_or]
    exact ⟨Step.noConfusion, hsteps⟩
  · intro hnone i
    have hrest : s.bridge.Sound := by
      have hsound : s.bridge.Sound (s.held.map (·.guard)) := hsound
      rw [hnone] at hsound
      exact hsound
    rw [hrest.reclaim.busy, Bridge.waiting_reclaim hrest.tracks]
    simp only [List.not_mem_nil, or_false]

/-- A port is deleted while a frame is in flight: the next port gets another slot, and after the frame
has arrived a reclaim frees the slot. -/
theorem slots_reused_after_guards_one_frame :
    let start : Transit := { bridge := .beside ["eth0", "eth1"] }
    let s := start.run [.event (.request (.portAdd "eth0" {})), .pin]
    let t := s.next (.event (.perform (.portDel 1) trivial))
    let add : Event := .request (.portAdd "eth1" {})
    s.Reachable ∧ s.held = [⟨0, ⟨0⟩⟩] ∧
    (∀ k, (t.run []).bridge.handed? add = some k → k.index ≠ 1) ∧
    t.bridge.handed? add = some ⟨2, 1⟩ ∧
    ((t.next (.drop ⟨0, ⟨0⟩⟩)).bridge.reclaim.1).handed? add = some ⟨1, 2⟩ := by
  intro start s t add
  have hs : s.Reachable := (Reachable.create (Bridge.create_beside _)).run _
  have hheld : s.held = [⟨0, ⟨0⟩⟩] := by decide +kernel
  have hok : (s.bridge.portDel 1).2 = .ok () := by decide +kernel
  have hmem : (⟨0, ⟨0⟩⟩ : Held) ∈ s.held := by
    rw [hheld]
    exact List.mem_cons_self
  obtain ⟨-, hdeleted, -⟩ := slots_reused_after_guards hs
  exact ⟨hs, hheld, hdeleted _ hmem 1 hok [] List.not_mem_nil add, by decide +kernel,
    by decide +kernel⟩

end Transit

end VlanBridge
