import VlanBridge.Proofs.Passages
import VlanBridge.Proofs.Workers
/-!
# Workers that meet in the bridge

The turns of a crew let a frame go all its way through the bridge. Threads also take turns while their
frames are on the way. A `Sender` is the thread of a worker with the frame that it has in the bridge: in a
turn it takes up a frame, or lets that frame take one step, or leaves the bridge with it, or records its
end. A `Team` is a bridge with its senders, and its runs (`Team.turns`) are all the ways in which their
turns can follow one another, with the ageing task in between.

A crew does nothing that a team cannot do (`exists_turns_ofCrew`). A sender has only so many turns to take
(`due_turns`): whatever the others do, it comes to its end.
-/

namespace VlanBridge.Traffic

/-- Where the thread of a worker is. -/
inductive Sender where
  | waiting (t : PortTraffic)
  | idle (w : Worker)
  /-- A frame of the worker is in the bridge. -/
  | sending (w : Worker) (guard : Guard) (passage : Passage)
  /-- The frame is out of the bridge, and its end is not recorded yet. -/
  | returned (w : Worker) (v : Verdict)
  | finished (r : WorkerReport)
  | failed (fault : TrafficFault)

namespace Sender

/-- Takes up the next frame; without a port it is as good as dropped. -/
def takeUp (w : Worker) (b : Bridge) (d : Draw) : Bridge × Sender :=
  match w.traffic.frame d with
  | .error e => (b, .failed e)
  | .ok f =>
    match w.handle with
    | none => (b, .returned w (.dropped .portInactive))
    | some h => (b.enter.1, .sending w b.enter.2 (.entered h f))

/-- What a sender does next; `d` is what it draws, if it draws something. -/
def go (d : Draw) : Bridge × Sender → Bridge × Sender
  | (b, .waiting t) => (b, .idle (.start b t))
  | (b, .idle w) =>
    if w.report.sent < w.traffic.frames then takeUp w b d else (b, .finished w.report)
  | (b, .sending w guard s) =>
    match s.verdict? with
    | some v => (b.leave guard v, .returned w v)
    | none => ((Bridge.advance (b, s)).1, .sending w guard (Bridge.advance (b, s)).2)
  | (b, .returned w v) => (b, .idle (w.after b v))
  | (b, .finished r) => (b, .finished r)
  | (b, .failed e) => (b, .failed e)

theorem go_sending_decided (d : Draw) (b : Bridge) (w : Worker) (guard : Guard) (v : Verdict) :
    go d (b, .sending w guard (.decided v)) = (b.leave guard v, .returned w v) := rfl

theorem go_sending {s : Passage} (hs : s.verdict? = none) (d : Draw) (b : Bridge) (w : Worker)
    (guard : Guard) : go d (b, .sending w guard s) =
      ((Bridge.advance (b, s)).1, .sending w guard (Bridge.advance (b, s)).2) := by
  simp only [go, hs]

/-- A worker cannot make its frame, or misses its port, or brings the frame into the bridge. -/
theorem takeUp_cases (w : Worker) (b : Bridge) (d : Draw) :
    (∃ e, w.traffic.frame d = .error e ∧ takeUp w b d = (b, .failed e)) ∨
      (w.handle = none ∧ takeUp w b d = (b, .returned w (.dropped .portInactive))) ∨
      ∃ h f, w.handle = some h ∧ w.traffic.frame d = .ok f ∧
        takeUp w b d = (b.enter.1, .sending w b.enter.2 (.entered h f)) := by
  unfold takeUp
  cases w.traffic.frame d with
  | error e => exact Or.inl ⟨e, rfl, rfl⟩
  | ok f =>
    cases w.handle with
    | none => exact Or.inr (Or.inl ⟨rfl, rfl⟩)
    | some h => exact Or.inr (Or.inr ⟨h, f, rfl, rfl, rfl⟩)

/-! ### How many turns are left -/

/-- How many turns a frame takes at most: it is taken up, takes its steps, leaves, and is recorded. -/
def frameTurns : Nat := maxPorts + 7

/-- How many turns of its own there are at most until a sender has come to its end. -/
def due : Sender → Nat
  | .waiting t => t.frames * frameTurns + 2
  | .idle w => (w.traffic.frames - w.report.sent) * frameTurns + 1
  | .sending w _ s => (w.traffic.frames - (w.report.sent + 1)) * frameTurns + s.steps + 3
  | .returned w _ => (w.traffic.frames - (w.report.sent + 1)) * frameTurns + 2
  | .finished _ | .failed _ => 0

theorem due_idle {w : Worker} (hgo : w.report.sent < w.traffic.frames) : (idle w).due =
    (w.traffic.frames - (w.report.sent + 1)) * frameTurns + frameTurns + 1 := by
  have hleft : w.traffic.frames - w.report.sent = w.traffic.frames - (w.report.sent + 1) + 1 := by omega
  rw [due, hleft, Nat.succ_mul]

theorem due_takeUp {w : Worker} (hgo : w.report.sent < w.traffic.frames) (b : Bridge) (d : Draw) :
    (takeUp w b d).2.due ≤ (idle w).due - 1 := by
  rw [due_idle hgo]
  rcases takeUp_cases w b d with ⟨e, -, htake⟩ | ⟨-, htake⟩ | ⟨h, f, -, -, htake⟩
  · rw [htake]
    exact Nat.zero_le _
  · rw [htake]
    simp only [due, frameTurns]
    omega
  · rw [htake]
    simp only [due, frameTurns, Passage.steps]
    omega

theorem due_go (d : Draw) (b : Bridge) (sender : Sender) :
    (go d (b, sender)).2.due ≤ sender.due - 1 := by
  cases sender with
  | idle w =>
    simp only [go]
    split
    · exact due_takeUp ‹_› b d
    · exact Nat.zero_le _
  | sending w guard s =>
    cases hs : s.verdict? with
    | some v =>
      rw [Passage.verdict?_eq_some hs, go_sending_decided]
      simp only [due, Passage.steps]
      omega
    | none =>
      have hpos := Passage.steps_pos hs
      have hless := Bridge.steps_advance b s
      rw [go_sending hs]
      simp only [due]
      omega
  | returned w v =>
    have hsent : (w.after b v).report.sent = w.report.sent + 1 := w.report.sent_record v
    have htraffic : (w.after b v).traffic = w.traffic := rfl
    simp only [go, due, hsent, htraffic]
    omega
  | waiting | finished | failed => exact Nat.le_refl _

theorem ended_of_due {sender : Sender} (h : sender.due = 0) :
    (∃ r, sender = .finished r) ∨ ∃ e, sender = .failed e := by
  cases sender with
  | finished r => exact Or.inl ⟨r, rfl⟩
  | failed e => exact Or.inr ⟨e, rfl⟩
  | waiting | idle | sending | returned => exact absurd h (Nat.succ_ne_zero _)

/-! ### A sender that nothing interrupts -/

/-- What a sender comes to by turns of its own in a row. -/
abbrev Alone (d : Draw) : Bridge × Sender → Bridge × Sender → Prop :=
  Relation.ReflTransGen fun s t => go d s = t

theorem alone_sending (d : Draw) (w : Worker) (guard : Guard) {n : Nat} {b c : Bridge} {s : Passage}
    {v : Verdict} (h : Bridge.advance^[n] (b, s) = (c, .decided v)) :
    Alone d (b, .sending w guard s) (c.leave guard v, .returned w v) := by
  induction n generalizing b s with
  | zero =>
    cases h
    exact .single rfl
  | succ n ih =>
    cases hs : s.verdict? with
    | some u =>
      -- the end was decided before the steps were over
      cases Passage.verdict?_eq_some hs
      have hfixed : Bridge.advance (b, .decided u) = (b, .decided u) := rfl
      rw [Function.iterate_fixed hfixed] at h
      cases h
      exact .single rfl
    | none =>
      rw [Function.iterate_succ_apply] at h
      exact .head (go_sending hs ..) (ih h)

/-- What a worker comes to with one frame. -/
def ofStep : Except TrafficFault Worker → Sender
  | .ok w => .idle w
  | .error e => .failed e

theorem alone_idle (d : Draw) {w : Worker} (b : Bridge) (hgo : w.report.sent < w.traffic.frames) :
    Alone d (b, .idle w) ((w.step .silent b d).1, ofStep (w.step .silent b d).2) := by
  have hfirst : go d (b, .idle w) = takeUp w b d := if_pos hgo
  unfold takeUp at hfirst
  unfold Worker.step
  cases hframe : w.traffic.frame d with
  | error e =>
    rw [hframe] at hfirst
    exact .single hfirst
  | ok f =>
    rw [hframe] at hfirst
    cases hhandle : w.handle with
    | none =>
      rw [hhandle] at hfirst
      exact .head hfirst (.single rfl)
    | some h =>
      rw [hhandle] at hfirst
      obtain ⟨n, c, v, hadvance, hleave, hverdict⟩ := Bridge.exists_advance_receive b h f
      simp only [Observer.receiveIn_silent]
      show Alone d (b, .idle w)
        ((b.receive h f).1, .idle (w.after (b.receive h f).1 (b.receive h f).2.verdict))
      rw [hleave, hverdict]
      exact .head hfirst ((alone_sending d w b.enter.2 hadvance).tail rfl)

def ofThread : Thread → Sender
  | .waiting t => .waiting t
  | .working w => .idle w
  | .failed e => .failed e

theorem alone_ofThread (d : Draw) (b : Bridge) (thread : Thread) :
    Alone d (b, ofThread thread) ((thread.go b d).1, ofThread (thread.go b d).2) := by
  cases thread with
  | waiting t => exact .single rfl
  | failed e => exact .refl
  | working w =>
    unfold Thread.go
    simp only
    split
    · rename_i hgo
      have hstep := alone_idle d b hgo
      cases hw : w.step .silent b d with
      | mk c result =>
        rw [hw] at hstep
        cases result with
        | ok v => exact hstep
        | error e => exact hstep
    · exact .refl

end Sender

/-! ### Teams -/

def Turn.isOf (place : Nat) : Turn → Bool
  | .work other _ => other == place
  | .wake _ | .clock _ => false

/-- A bridge and the senders that have frames in it at the same time. -/
structure Team where
  bridge : Bridge
  senders : List Sender

namespace Team

def turn (m : Team) : Turn → Team
  | .work place d =>
    match m.senders[place]? with
    | none => m
    | some sender =>
      let (bridge, sender) := Sender.go d (m.bridge, sender)
      { bridge, senders := m.senders.set place sender }
  | .wake now => { m with bridge := m.bridge.next (.wake now) }
  | .clock now => { m with bridge := m.bridge.next (.clock now) }

def turns (m : Team) (turns : List Turn) : Team := turns.foldl turn m

/-- Senders for some traffic, none of which has begun. -/
def gather (b : Bridge) (ts : List PortTraffic) : Team := ⟨b, ts.map .waiting⟩

theorem turn_of_none (m : Team) {place : Nat} {d : Draw} (h : m.senders[place]? = none) :
    m.turn (.work place d) = m := by
  simp only [turn, h]

theorem turn_of_some (m : Team) {place : Nat} {d : Draw} {sender : Sender}
    (h : m.senders[place]? = some sender) : m.turn (.work place d) =
      ⟨(Sender.go d (m.bridge, sender)).1,
        m.senders.set place (Sender.go d (m.bridge, sender)).2⟩ := by
  simp only [turn, h]

theorem turns_append (m : Team) (before after : List Turn) :
    m.turns (before ++ after) = (m.turns before).turns after := List.foldl_append ..

theorem turns_induction {P : Team → Prop} (hturn : ∀ m turn, P m → P (m.turn turn)) {m : Team}
    (hm : P m) (turns : List Turn) : P (m.turns turns) := by
  induction turns generalizing m with
  | nil => exact hm
  | cons turn turns ih => exact ih (hturn m turn hm)

/-! ### How many turns a sender takes -/

/-- Each turn of its own leaves a sender one turn less, and no other sender's turn leaves it more. -/
theorem due_turn (m : Team) (turn : Turn) {place : Nat} {sender : Sender}
    (h : m.senders[place]? = some sender) : ∃ next, (m.turn turn).senders[place]? = some next ∧
      next.due ≤ sender.due - if turn.isOf place then 1 else 0 := by
  cases turn with
  | wake | clock => exact ⟨sender, h, Nat.le_refl _⟩
  | work other d =>
    simp only [Turn.isOf, beq_iff_eq]
    cases hother : m.senders[other]? with
    | none =>
      have hne : other ≠ place := by
        rintro rfl
        cases hother.symm.trans h
      rw [m.turn_of_none hother, if_neg hne]
      exact ⟨sender, h, Nat.le_refl _⟩
    | some moved =>
      rw [m.turn_of_some hother]
      simp only
      -- only a sender's own turns bring it nearer to its end
      by_cases hplace : other = place
      · subst hplace
        cases hother.symm.trans h
        obtain ⟨hlt, -⟩ := List.getElem?_eq_some_iff.1 h
        rw [if_pos rfl]
        exact ⟨_, List.getElem?_set_self hlt, Sender.due_go d m.bridge _⟩
      · rw [if_neg hplace, List.getElem?_set_ne hplace]
        exact ⟨sender, h, Nat.le_refl _⟩

theorem due_turns (m : Team) (turns : List Turn) {place : Nat} {sender : Sender}
    (h : m.senders[place]? = some sender) : ∃ last, (m.turns turns).senders[place]? = some last ∧
      last.due ≤ sender.due - turns.countP (·.isOf place) := by
  induction turns generalizing m sender with
  | nil => exact ⟨sender, h, Nat.le_refl _⟩
  | cons turn turns ih =>
    obtain ⟨next, hnext, hless⟩ := due_turn m turn h
    obtain ⟨last, hlast, hrest⟩ := ih (m.turn turn) hnext
    refine ⟨last, hlast, ?_⟩
    rw [List.countP_cons]
    omega

/-! ### Crews are teams -/

theorem exists_turns_of_alone {d : Draw} {s t : Bridge × Sender} (h : Sender.Alone d s t) {place : Nat}
    {senders : List Sender} (hs : senders[place]? = some s.2) :
    ∃ turns, (⟨s.1, senders⟩ : Team).turns turns = ⟨t.1, senders.set place t.2⟩ := by
  obtain ⟨hlt, hget⟩ := List.getElem?_eq_some_iff.1 hs
  induction h with
  | refl =>
    refine ⟨[], ?_⟩
    rw [← hget, List.set_getElem_self]
    rfl
  | @tail u v _ hgo ih =>
    -- each turn finds the sender as the last one has left it
    obtain ⟨turns, hturns⟩ := ih
    refine ⟨turns ++ [.work place d], ?_⟩
    have hplace : (senders.set place u.2)[place]? = some u.2 := List.getElem?_set_self hlt
    rw [turns_append, hturns]
    show (⟨u.1, senders.set place u.2⟩ : Team).turn (.work place d) = _
    rw [turn_of_some _ hplace, List.set_set]
    simp only [Prod.mk.eta, hgo]

def ofCrew (c : Crew) : Team := ⟨c.bridge, c.threads.map .ofThread⟩

theorem exists_turns_ofCrew_turn (c : Crew) (turn : Turn) :
    ∃ turns, (ofCrew c).turns turns = ofCrew (c.turn turn) := by
  cases turn with
  | wake now => exact ⟨[.wake now], rfl⟩
  | clock now => exact ⟨[.clock now], rfl⟩
  | work place d =>
    cases hplace : c.threads[place]? with
    | none =>
      rw [c.turn_of_none hplace]
      exact ⟨[], rfl⟩
    | some thread =>
      have hsender : (c.threads.map Sender.ofThread)[place]? = some (Sender.ofThread thread) := by
        rw [List.getElem?_map, hplace]
        rfl
      obtain ⟨turns, hturns⟩ := exists_turns_of_alone (Sender.alone_ofThread d c.bridge thread) hsender
      refine ⟨turns, ?_⟩
      rw [c.turn_of_some hplace]
      unfold ofCrew
      rw [hturns, List.map_set]

/-- Every run of a crew is one of its team. -/
theorem exists_turns_ofCrew (c : Crew) (turns : List Turn) :
    ∃ finer, (ofCrew c).turns finer = ofCrew (c.turns turns) := by
  induction turns generalizing c with
  | nil => exact ⟨[], rfl⟩
  | cons turn turns ih =>
    obtain ⟨first, hfirst⟩ := exists_turns_ofCrew_turn c turn
    obtain ⟨rest, hrest⟩ := ih (c.turn turn)
    refine ⟨first ++ rest, ?_⟩
    rw [turns_append, hfirst, hrest]
    rfl

theorem ofCrew_gather (b : Bridge) (ts : List PortTraffic) : ofCrew (.gather b ts) = gather b ts := by
  unfold ofCrew Crew.gather gather
  rw [List.map_map]
  rfl

end Team

end VlanBridge.Traffic
