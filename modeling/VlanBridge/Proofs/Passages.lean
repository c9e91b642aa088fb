import VlanBridge.Proofs.Accounts
/-!
# The way of a frame in steps

Threads that send frames at the same time take turns in the bridge, and a turn is less than the whole way
of a frame. A `Passage` is how far a frame has come since it entered. `advance` is its next step, which
looks at the tables, or writes to one of them, or hands the frame to one port; when the frame's end is
decided, it leaves.

Steps that nothing comes between are the way of a frame (`exists_advance_receive`). However the bridge
has changed since the last one, a step leaves the ports alone (`keepsPorts_advance`), there are only so
many steps (`steps_advance`), and what a frame has been counted for can be told from how far it has come
(`advance_booked`).
-/

namespace VlanBridge

open VlanBridge.Net

theorem PortSet.length_toList_le (s : PortSet) : s.toList.length ≤ maxPorts := by
  have hdistinct : s.toList.Nodup := s.toList_ascending.imp Fin.ne_of_lt
  exact hdistinct.length_le_card.trans_eq (Fintype.card_fin maxPorts)

/-- How far a frame has come that has entered a bridge. -/
inductive Passage where
  | entered (h : Handle) (f : Frame)
  | classified (p : Port) (c : Classification) (g : Frame) (dst src : Mac)
  /-- The source has been learned, if it is to be. -/
  | learned (p : Port) (c : Classification) (g : Frame) (dst : Mac)
  /-- The trap has taken the frame, which has not been counted yet. -/
  | taken
  | flying (flight : Flight) (left : List Port) (sent : List Emission)
  | decided (v : Verdict)

namespace Passage

def ofAdmission : Admission → Passage
  | .dropped reason => .decided (.dropped reason)
  | .trapped .. => .taken
  | .forward flight => .flying flight flight.targets []

def verdict? : Passage → Option Verdict
  | .decided v => some v
  | _ => none

/-- How many steps there are at most until the end is decided. -/
def steps : Passage → Nat
  | .entered .. => maxPorts + 4
  | .classified .. => maxPorts + 3
  | .learned .. => maxPorts + 2
  | .taken => 1
  | .flying _ left _ => left.length + 1
  | .decided _ => 0

theorem verdict?_eq_some {s : Passage} {v : Verdict} (h : s.verdict? = some v) : s = .decided v := by
  cases s with
  | decided w => exact congrArg decided (Option.some.inj h)
  | entered | classified | learned | taken | flying => cases h

theorem steps_pos {s : Passage} (h : s.verdict? = none) : 0 < s.steps := by
  cases s with
  | decided => cases h
  | entered | classified | learned | taken | flying => exact Nat.succ_pos _

/-- What a frame that has come so far has been counted for, in an account that its end tells. -/
def booked (a : Account) : Passage → Nat
  | .decided .trapped => a.counters.count .rxFrames + a.counters.count .trapped
  | _ => a.counters.count .rxFrames

end Passage

namespace Bridge

variable {b c : Bridge} {h : Handle} {f : Frame}

/-- What is found out about a frame before its source is learned. -/
def inspect (b : Bridge) (h : Handle) (f : Frame) : Passage :=
  match b.ports.resolve h with
  | .error _ => .decided (.dropped .portInactive)
  | .ok p =>
    if p.index ∉ b.ports.active then .decided (.dropped .portInactive)
    else if !f.hasHeader then .decided (.dropped .runt)
    else match f.dst?, f.src? with
      | some dst, some src =>
        match b.vlans.classify p f b.config.vlanProtocol with
        | .error reason => .decided (.dropped reason)
        | .ok (c, g) => .classified p c g dst src
      | _, _ => .decided (.dropped .runt)

/-- The next step of a frame. -/
def advance : Bridge × Passage → Bridge × Passage
  | (b, .entered h f) => (b, b.inspect h f)
  | (b, .classified p c g dst src) => (b.learnSource p c src, .learned p c g dst)
  | (b, .learned p c g dst) => ((b.judge p c g dst).1, .ofAdmission (b.judge p c g dst).2)
  | (b, .taken) => (b.count .trapped, .decided .trapped)
  | (b, .flying _ [] sent) => (b, .decided (verdictOf sent))
  | (b, .flying flight (p :: ps) sent) =>
    ((b.send flight p).1, .flying flight ps (sent ++ [(b.send flight p).2]))
  | (b, .decided v) => (b, .decided v)

/-! ### Steps in a row -/

/-- Either the end of a frame is decided at the first look, or its source is learned and it is judged. -/
theorem inspect_cases (b : Bridge) (h : Handle) (f : Frame) :
    (∃ reason, b.inspect h f = .decided (.dropped reason) ∧ b.assess h f = (b, .dropped reason)) ∨
      ∃ p c g dst src, b.inspect h f = .classified p c g dst src ∧
        b.assess h f = (b.learnSource p c src).judge p c g dst := by
  unfold inspect assess
  cases b.ports.resolve h with
  | error e => exact Or.inl ⟨_, rfl, rfl⟩
  | ok p =>
    simp only
    split
    · exact Or.inl ⟨_, rfl, rfl⟩
    · split
      · exact Or.inl ⟨_, rfl, rfl⟩
      · rename_i hheader
        have hheader : f.hasHeader = true := by simpa using hheader
        obtain ⟨dst, src, hdst, hsrc⟩ := exists_addresses hheader
        unfold assessFrom
        simp only [hdst, hsrc]
        cases b.vlans.classify p f b.config.vlanProtocol with
        | error reason => exact Or.inl ⟨reason, rfl, rfl⟩
        | ok classified => exact Or.inr ⟨p, _, _, dst, src, rfl, rfl⟩

theorem advance_flying (flight : Flight) (ps : List Port) (b : Bridge) (sent : List Emission) :
    advance^[ps.length + 1] (b, .flying flight ps sent) =
      ((sendAll flight ps b).1, .decided (verdictOf (sent ++ (sendAll flight ps b).2))) := by
  induction ps generalizing b sent with
  | nil =>
    rw [sendAll, List.append_nil]
    rfl
  | cons p ps ih =>
    -- what has been sent so far goes along with the passage
    rw [List.length_cons, Function.iterate_succ_apply]
    show advance^[ps.length + 1] ((b.send flight p).1, _) = _
    rw [ih, sendAll_cons, List.append_assoc, List.singleton_append]

/-- From what is decided about a frame, steps lead to the end that the frame has. -/
theorem exists_advance_ofAdmission (b c : Bridge) (h : Handle) (f : Frame) (admission : Admission)
    (ha : b.enter.1.assess h f = (c, admission)) :
    ∃ n d v, advance^[n] (c, .ofAdmission admission) = (d, .decided v) ∧
      (b.receive h f).1 = d.leave b.enter.2 v ∧ (b.receive h f).2.verdict = v := by
  cases admission with
  | dropped reason =>
    rw [receive_of_dropped ha]
    exact ⟨0, c, .dropped reason, rfl, rfl, rfl⟩
  | trapped i vid g =>
    rw [receive_of_trapped ha]
    exact ⟨1, c.count .trapped, .trapped, rfl, rfl, rfl⟩
  | forward flight =>
    refine ⟨_, _, _, advance_flying flight flight.targets c [], ?_⟩
    unfold receive
    simp only [ha, List.nil_append, and_self]

/-- A frame that takes all its steps with nothing in between goes the way of a frame. -/
theorem exists_advance_receive (b : Bridge) (h : Handle) (f : Frame) :
    ∃ n c v, advance^[n] (b.enter.1, .entered h f) = (c, .decided v) ∧
      (b.receive h f).1 = c.leave b.enter.2 v ∧ (b.receive h f).2.verdict = v := by
  rcases inspect_cases b.enter.1 h f with ⟨reason, hinspect, ha⟩ | ⟨p, c, g, dst, src, hinspect, ha⟩
  · obtain ⟨n, d, v, hn, hrest⟩ := exists_advance_ofAdmission b _ h f _ ha
    refine ⟨n + 1, d, v, ?_, hrest⟩
    rw [Function.iterate_succ_apply, advance, hinspect]
    exact hn
  · obtain ⟨n, d, v, hn, hrest⟩ := exists_advance_ofAdmission b _ h f _ ha
    refine ⟨n + 3, d, v, ?_, hrest⟩
    rw [Function.iterate_add_apply]
    show advance^[n] (advance (advance (advance (b.enter.1, .entered h f)))) = _
    rw [advance, hinspect]
    exact hn

/-! ### What a step leaves alone -/

/-- The settings are the same, and so are the ports and where they are. -/
structure KeepsPorts (b c : Bridge) : Prop where
  config : c.config = b.config
  port? : ∀ i, c.ports.port? i = b.ports.port? i

theorem keepsPorts_judge (b : Bridge) (p : Port) (c : Classification) (g : Frame) (dst : Mac) :
    b.KeepsPorts (b.judge p c g dst).1 := by
  rcases b.judge_cases p c g dst with hj | hj | ⟨r, -, hj⟩
  · rw [hj]
    exact ⟨rfl, fun _ => rfl⟩
  · rw [hj]
    exact ⟨rfl, fun _ => rfl⟩
  · rw [hj, route_fst]
    exact ⟨rfl, fun _ => rfl⟩

theorem keepsPorts_advance (b : Bridge) (s : Passage) : b.KeepsPorts (advance (b, s)).1 := by
  cases s with
  | classified p c g dst src =>
    obtain ⟨cs, hlearn⟩ := learnSource_fst b p c src
    show b.KeepsPorts (b.learnSource p c src)
    rw [hlearn]
    exact ⟨rfl, fun _ => rfl⟩
  | learned p c g dst => exact keepsPorts_judge b p c g dst
  | flying flight left sent =>
    cases left with
    | nil => exact ⟨rfl, fun _ => rfl⟩
    | cons p ps =>
      obtain ⟨⟨cs, hsend⟩, -⟩ := send_eq b flight p
      show b.KeepsPorts (b.send flight p).1
      rw [hsend]
      exact ⟨rfl, fun _ => rfl⟩
  | entered | taken | decided => exact ⟨rfl, fun _ => rfl⟩

theorem keepsPorts_wake (b : Bridge) (due : Nat) : b.KeepsPorts (b.wake due) :=
  ⟨(unseen_wake b due).config, (reclaim_tables _).1⟩

/-! ### How many steps there are -/

theorem length_targets_of_route {b c : Bridge} {p : Port} {r : VlanRecord} {vid : Vid} {g : Frame} {dst : Mac}
    {flight : Flight} (h : b.route p r vid g dst = (c, .forward flight)) :
    flight.targets.length ≤ maxPorts := by
  unfold route at h
  simp only at h
  split at h
  · cases h
  · cases h
    -- at most one port for each slot that the set names
    exact (List.length_filterMap_le ..).trans (PortSet.length_toList_le _)

theorem steps_judge (b : Bridge) (p : Port) (c : Classification) (g : Frame) (dst : Mac) :
    (Passage.ofAdmission (b.judge p c g dst).2).steps ≤ maxPorts + 1 := by
  rcases b.judge_cases p c g dst with hj | hj | ⟨r, -, hj⟩
  · rw [hj]
    exact Nat.le_add_left 1 maxPorts
  · rw [hj]
    exact Nat.zero_le _
  · rw [hj]
    cases hroute : b.route p r c.vid g dst with
    | mk d admission =>
      cases admission with
      | dropped reason => exact Nat.zero_le _
      | trapped => exact Nat.le_add_left 1 maxPorts
      | forward flight => exact Nat.succ_le_succ (length_targets_of_route hroute)

theorem steps_inspect (b : Bridge) (h : Handle) (f : Frame) : (b.inspect h f).steps ≤ maxPorts + 3 := by
  rcases inspect_cases b h f with ⟨reason, hinspect, -⟩ | ⟨p, c, g, dst, src, hinspect, -⟩
  · rw [hinspect]
    exact Nat.zero_le _
  · rw [hinspect]
    exact Nat.le_refl _

/-- Each step is one less, whatever the bridge is like. -/
theorem steps_advance (b : Bridge) (s : Passage) : (advance (b, s)).2.steps ≤ s.steps - 1 := by
  cases s with
  | entered h f => exact steps_inspect b h f
  | learned p c g dst => exact steps_judge b p c g dst
  | flying flight left sent =>
    cases left with
    | nil => exact Nat.le_refl _
    | cons p ps => exact Nat.le_refl _
  | classified | taken | decided => exact Nat.le_refl _

end Bridge

/-! ### What a step is counted for -/

namespace Account

/-- Its share is told by the end of a frame alone. -/
def IsOutcome : Account → Prop
  | .received | .trapped | .dropped _ => True
  | .resolved | .sent | .refused => False

variable {a : Account}

theorem IsOutcome.ofEmission (ha : a.IsOutcome) (e : Emission) : a.ofEmission e = 0 := by
  cases a with
  | received | trapped | dropped => rfl
  | resolved | sent | refused => exact ha.elim

theorem IsOutcome.count_hit (ha : a.IsOutcome) {c : Counter}
    (hc : c = .flooded ∨ c = .unicastHits ∨ c = .groupHits) : a.counters.count c = 0 := by
  rw [a.count_hit hc]
  cases a with
  | dropped reason => cases reason <;> rfl
  | received | trapped => rfl
  | resolved | sent | refused => exact ha.elim

theorem IsOutcome.booked_decided (ha : a.IsOutcome) (v : Verdict) :
    (Passage.decided v).booked a + a.atEnd v = a.ofVerdict v := by
  have hflooded : a.counters.count .flooded = 0 := ha.count_hit (Or.inl rfl)
  rw [a.ofVerdict_eq, hflooded, ite_self, Nat.add_zero]
  cases v with
  | trapped => rfl
  | delivered | dropped => rfl

end Account

namespace Bridge

variable {a : Account}

/-- An account has grown by what a frame has been counted for between two points of its way. -/
def Grows (a : Account) (s t : Bridge × Passage) : Prop :=
  ∃ n, t.2.booked a = s.2.booked a + n ∧
    a.reading t.1.counters = a.reading s.1.counters + UInt64.ofNat n

theorem grows_of_booked {b c : Bridge} {s t : Passage} {shares : Account → Nat}
    (hb : Booked b c shares) (h : t.booked a = s.booked a + shares a) : Grows a (b, s) (c, t) :=
  ⟨shares a, h, hb a⟩

theorem booked_inspect (b : Bridge) (h : Handle) (f : Frame) :
    (b.inspect h f).booked a = a.counters.count .rxFrames := by
  rcases inspect_cases b h f with ⟨reason, hinspect, -⟩ | ⟨p, c, g, dst, src, hinspect, -⟩
  · rw [hinspect]
    rfl
  · rw [hinspect]
    rfl

theorem booked_ofAdmission (admission : Admission) :
    (Passage.ofAdmission admission).booked a = a.counters.count .rxFrames := by
  cases admission with
  | dropped | trapped | forward => rfl

/-- The way by which a destination is found is of no account at the end. -/
theorem judge_booked (ha : a.IsOutcome) (b : Bridge) (p : Port) (c : Classification) (g : Frame)
    (dst : Mac) : a.reading (b.judge p c g dst).1.counters = a.reading b.counters := by
  rcases b.judge_cases p c g dst with hj | hj | ⟨r, -, hj⟩
  · rw [hj]
  · rw [hj]
  · have hcount := booked_count b (b.resolve r.vlan c.vid g dst).2 a
    simp only [ha.count_hit (resolve_counter b r.vlan c.vid g dst)] at hcount
    rw [hj, route_fst, hcount]
    exact UInt64.add_zero _

theorem advance_booked (ha : a.IsOutcome) (b : Bridge) (s : Passage) :
    Grows a (b, s) (advance (b, s)) := by
  cases s with
  | entered h f => exact grows_of_booked (booked_refl b) (booked_inspect b h f)
  | classified p c g dst src => exact grows_of_booked (booked_learnSource b p c src) rfl
  | learned p c g dst =>
    -- a drop is decided here and counted only as the frame leaves
    refine ⟨0, booked_ofAdmission _, ?_⟩
    exact (judge_booked ha b p c g dst).trans (UInt64.add_zero _).symm
  | taken => exact grows_of_booked (booked_count b .trapped) rfl
  | decided v => exact grows_of_booked (booked_refl b) rfl
  | flying flight left sent =>
    cases left with
    | nil =>
      obtain ⟨-, hnot⟩ := isResolved_verdictOf sent
      refine grows_of_booked (booked_refl b) ?_
      show (Passage.decided (verdictOf sent)).booked a = _
      cases hv : verdictOf sent with
      | trapped => exact absurd hv hnot
      | delivered | dropped => rfl
    | cons p ps =>
      refine grows_of_booked (booked_send b flight p) ?_
      rw [ha.ofEmission]
      rfl

end Bridge

end VlanBridge
