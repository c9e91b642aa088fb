import VlanBridge.Simulation
import VlanBridge.Proofs.Events
/-!
# Workers side by side

The workers of a simulation run on threads of their own, beside the ageing task. A `Turn` is what happens
next: a thread goes on, with whatever it draws, by the start of its worker or by one frame, which goes all
its way through the bridge; or the ageing task wakes; or the clock goes on. A run is any list of turns
(`Crew.turns`), so it stands for any interleaving, for any outcome of the draws, and for workers that are
stopped at any point.

The simulation itself runs the workers one after the other. That is one of the runs
(`exists_turns_runWorkers`).
-/

namespace VlanBridge.Traffic

namespace Worker

/-- A worker fails for want of something to draw from, or misses its port, or sends its frame. -/
theorem step_cases (w : Worker) (b : Bridge) (d : Draw) :
    (∃ e, w.step .silent b d = (b, .error e)) ∨
      (w.handle = none ∧ w.step .silent b d = (b, .ok (w.after b (.dropped .portInactive)))) ∨
      ∃ h f, w.handle = some h ∧ w.traffic.frame d = .ok f ∧ w.step .silent b d =
        ((b.receive h f).1, .ok (w.after (b.receive h f).1 (b.receive h f).2.verdict)) := by
  unfold step
  cases w.traffic.frame d with
  | error e => exact Or.inl ⟨e, rfl⟩
  | ok f =>
    cases w.handle with
    | none => exact Or.inr (Or.inl ⟨rfl, rfl⟩)
    | some h =>
      simp only [Observer.receiveIn_silent]
      exact Or.inr (Or.inr ⟨h, f, rfl, rfl, rfl⟩)

/-- Each frame is one more that is reported as sent. -/
theorem sent_step {w v : Worker} {b c : Bridge} {d : Draw} (h : w.step .silent b d = (c, .ok v)) :
    v.traffic = w.traffic ∧ v.report.sent = w.report.sent + 1 := by
  have hafter : ∀ (c : Bridge) (outcome : Verdict), (w.after c outcome).traffic = w.traffic ∧
      (w.after c outcome).report.sent = w.report.sent + 1 :=
    fun c outcome => ⟨rfl, w.report.sent_record outcome⟩
  rcases w.step_cases b d with ⟨e, he⟩ | ⟨-, hmissed⟩ | ⟨handle, f, -, -, hsent⟩
  · cases he.symm.trans h
  · cases hmissed.symm.trans h
    exact hafter ..
  · cases hsent.symm.trans h
    exact hafter ..

end Worker

/-- Where the thread of a worker is. -/
inductive Thread where
  | waiting (t : PortTraffic)
  | working (w : Worker)
  | failed (fault : TrafficFault)

namespace Thread

/-- What a thread does next. A worker that has sent all its frames does nothing more. -/
def go (b : Bridge) (d : Draw) : Thread → Bridge × Thread
  | .waiting t => (b, .working (.start b t))
  | .working w =>
    if w.report.sent < w.traffic.frames then
      match w.step .silent b d with
      | (b, .ok w) => (b, .working w)
      | (b, .error e) => (b, .failed e)
    else (b, .working w)
  | .failed e => (b, .failed e)

def report? : Thread → Option WorkerReport
  | .working w => some w.report
  | .waiting _ | .failed _ => none

end Thread

inductive Turn where
  | work (place : Nat) (draw : Draw)
  | wake (now : Nat)
  | clock (now : Nat)

/-- A bridge and the threads that send frames into it. -/
structure Crew where
  bridge : Bridge
  threads : List Thread

namespace Crew

def turn (c : Crew) : Turn → Crew
  | .work place d =>
    match c.threads[place]? with
    | none => c
    | some thread =>
      let (bridge, thread) := thread.go c.bridge d
      { bridge, threads := c.threads.set place thread }
  | .wake now => { c with bridge := c.bridge.next (.wake now) }
  | .clock now => { c with bridge := c.bridge.next (.clock now) }

def turns (c : Crew) (turns : List Turn) : Crew := turns.foldl turn c

/-- Threads for some traffic, none of which has begun. -/
def gather (b : Bridge) (ts : List PortTraffic) : Crew := ⟨b, ts.map .waiting⟩

theorem turn_of_none (c : Crew) {place : Nat} {d : Draw} (h : c.threads[place]? = none) :
    c.turn (.work place d) = c := by
  simp only [turn, h]

theorem turn_of_some (c : Crew) {place : Nat} {d : Draw} {thread : Thread}
    (h : c.threads[place]? = some thread) : c.turn (.work place d) =
      ⟨(thread.go c.bridge d).1, c.threads.set place (thread.go c.bridge d).2⟩ := by
  simp only [turn, h]

theorem turns_append (c : Crew) (before after : List Turn) :
    c.turns (before ++ after) = (c.turns before).turns after := List.foldl_append ..

/-- What every turn keeps, a run keeps. -/
theorem turns_induction {P : Crew → Prop} (hturn : ∀ c turn, P c → P (c.turn turn)) {c : Crew}
    (hc : P c) (turns : List Turn) : P (c.turns turns) := by
  induction turns generalizing c with
  | nil => exact hc
  | cons turn turns ih => exact ih (hturn c turn hc)

/-! ### One worker after the other -/

theorem turn_work (b : Bridge) (before after : List Thread) (thread : Thread) (d : Draw) :
    (⟨b, before ++ thread :: after⟩ : Crew).turn (.work before.length d) =
      ⟨(thread.go b d).1, before ++ (thread.go b d).2 :: after⟩ := by
  have hplace : (before ++ thread :: after)[before.length]? = some thread := by
    rw [List.getElem?_append_right (Nat.le_refl _), Nat.sub_self, List.getElem?_cons_zero]
  rw [turn_of_some _ hplace, List.set_append_right _ _ (Nat.le_refl _), Nat.sub_self, List.set_cons_zero]

/-- A worker whose frames are sent in a row does so by turns of its thread. -/
theorem exists_turns_sendFrames (before after : List Thread) (dice : Dice) (n : Nat) {b b' : Bridge}
    {w : Worker} {result : Except TrafficFault Worker}
    (hn : w.report.sent + n = w.traffic.frames)
    (h : w.sendFrames .silent dice n b = (b', result)) :
    ∃ turns thread, (⟨b, before ++ .working w :: after⟩ : Crew).turns turns =
      ⟨b', before ++ thread :: after⟩ ∧ thread.report? = result.toOption.map (·.report) := by
  induction n generalizing b w with
  | zero =>
    cases h
    exact ⟨[], .working w, rfl, rfl⟩
  | succ n ih =>
    have hgo : w.report.sent < w.traffic.frames := by omega
    unfold Worker.sendFrames at h
    cases hstep : w.step .silent b (dice w.report.sent) with
    | mk b₁ outcome =>
      have hturn := turn_work b before after (.working w) (dice w.report.sent)
      simp only [Thread.go, if_pos hgo, hstep] at hturn
      rw [hstep] at h
      cases outcome with
      | error e =>
        cases h
        exact ⟨[.work before.length (dice w.report.sent)], .failed e, hturn, rfl⟩
      | ok w₁ =>
        obtain ⟨htraffic, hsent⟩ := Worker.sent_step hstep
        have hafter : w₁.report.sent + n = w₁.traffic.frames := by
          rw [htraffic, hsent]
          omega
        obtain ⟨turns, thread, hturns, hreport⟩ := ih hafter h
        refine ⟨.work before.length (dice w.report.sent) :: turns, thread, ?_, hreport⟩
        exact (congrArg (·.turns turns) hturn).trans hturns

/-- The workers that a simulation runs one after the other are threads that take their turns, and what they
report are the reports of the threads. -/
theorem exists_turns_runWorkers (dice : PortTraffic → Dice) (ts : List PortTraffic) (b : Bridge) :
    ∃ turns threads, (gather b ts).turns turns =
      ⟨(Simulation.runWorkers dice ts b).1, threads⟩ ∧
      threads.filterMap Thread.report? = (Simulation.runWorkers dice ts b).2 := by
  -- the threads of the workers that are done stand before the others
  have general : ∀ done : List Thread, ∃ turns threads,
      (⟨b, done ++ ts.map .waiting⟩ : Crew).turns turns =
        ⟨(Simulation.runWorkers dice ts b).1, done ++ threads⟩ ∧
      threads.filterMap Thread.report? = (Simulation.runWorkers dice ts b).2 := by
    induction ts generalizing b with
    | nil => exact fun done => ⟨[], [], rfl, rfl⟩
    | cons t ts ih =>
      intro done
      cases hport : (Worker.start b t).sendFrames .silent (dice t) t.frames b with
      | mk b' result =>
        have hzero : (Worker.start b t).report.sent + t.frames = (Worker.start b t).traffic.frames :=
          Nat.zero_add _
        obtain ⟨own, thread, hown, hreport⟩ :=
          exists_turns_sendFrames done (ts.map .waiting) (dice t) t.frames hzero hport
        have hrun : runPort .silent (dice t) b t = (b', result.map (·.report)) := by
          unfold runPort
          simp only [Observer.silent] at hport ⊢
          rw [hport]
          cases result <;> rfl
        obtain ⟨rest, threads, hrest, hreports⟩ := ih b' (done ++ [thread])
        simp only [List.append_assoc, List.singleton_append] at hrest
        have hall : Simulation.runWorkers dice (t :: ts) b =
            ((Simulation.runWorkers dice ts b').1,
              (result.map (·.report)).toOption.toList ++ (Simulation.runWorkers dice ts b').2) := by
          simp only [Simulation.runWorkers, hrun]
        refine ⟨.work done.length default :: own ++ rest, thread :: threads, ?_, ?_⟩
        · rw [turns_append, hall, ← hrest, ← hown]
          exact congrArg (fun c => (c.turns own).turns rest)
            (turn_work b done (ts.map .waiting) (.waiting t) default)
        · rw [hall, ← hreports]
          cases hresult : result with
          | error e =>
            rw [hresult] at hreport
            exact List.filterMap_cons_none hreport
          | ok w =>
            rw [hresult] at hreport
            exact List.filterMap_cons_some hreport
  exact general []

end Crew

end VlanBridge.Traffic
