import VlanBridge.Proofs.Tallies
/-!
# The reports of the workers agree with the bridge

At every moment of a run, what the bridge has counted is what its senders are counted for together
(`Team.Sound`), and each turn keeps that, whoever takes it. Once every sender has reported, nothing is on
its way, and the reports say what the bridge has counted (`Agreement`).

A sender of a valid scenario reports in the end: it has something to draw from, its port stays where it is,
and it has only so many turns to take.
-/

namespace VlanBridge

open VlanBridge.Net

/-! ### Where ports are -/

theorem PortTable.list_congr {t u : PortTable} (h : ∀ i, u.port? i = t.port? i) : u.list = t.list := by
  have hslots : u.slots = t.slots := Vector.ext fun i hi => h ⟨i, hi⟩
  rw [list, list, hslots]

namespace Bridge

variable {b c : Bridge}

theorem KeepsPorts.portIndex (h : b.KeepsPorts c) (name : String) : c.portIndex name = b.portIndex name := by
  unfold Bridge.portIndex PortTable.findByName
  rw [h.config, PortTable.list_congr h.port?]

theorem KeepsPorts.portHandle (h : b.KeepsPorts c) (n : Nat) : c.portHandle n = b.portHandle n := by
  have hget : c.ports.get? n = b.ports.get? n :=
    congrArg (PortIndex.ofNat? n).bind (funext h.port?)
  unfold Bridge.portHandle PortTable.require
  rw [hget]

theorem KeepsPorts.currentHandle? (h : b.KeepsPorts c) (name : String) :
    Traffic.currentHandle? c name = Traffic.currentHandle? b name := by
  simp only [Traffic.currentHandle?, h.portIndex, h.portHandle]

theorem sameFrames_handleAll (hb : b.Reachable) {rs : List Request}
    (h : b.handleAll rs = (c, .ok ())) : b.counters.SameFrames c.counters := by
  induction rs generalizing b with
  | nil =>
    cases h
    exact .refl _
  | cons r rs ih =>
    obtain ⟨d, a, hr, hrest⟩ := handleAll_cons_eq_ok h
    have hone := (next_effects hb.sound (e := .request r) nofun nofun).sameFrames
    have hnext : b.next (.request r) = d := congrArg Prod.fst hr
    rw [hnext] at hone
    exact hone.trans (ih (hb.handle hr) hrest)

theorem keepsPorts_startAgeing (b : Bridge) (timer : Option Timer) :
    b.KeepsPorts (b.startAgeing timer).1 := by
  unfold startAgeing
  split
  · exact ⟨rfl, fun _ => rfl⟩
  · split
    · exact ⟨rfl, fun _ => rfl⟩
    · exact ⟨rfl, fun _ => rfl⟩

end Bridge

namespace Simulation

variable {s : Scenario} {b : Bridge}

/-- Each port of the topology that a bridge is built from can be found by its name. -/
theorem currentHandle?_build (hvalid : s.validate = .ok ()) (h : build s = .ok b) {name : String}
    (hname : name ∈ s.topology.ports) : Traffic.currentHandle? b name ≠ none := by
  obtain ⟨c, d, hcreate, hall, hstart⟩ := build_eq_ok h
  obtain ⟨-, hfault, -⟩ := Scenario.validate_eq_ok_iff.1 hvalid
  obtain ⟨hfew, hdistinct, hbridge, hvids, hzero⟩ := Bridge.fits_of_handleAll hcreate hall
  have hnonzero : ∀ v ∈ s.topology.vlans, v.vid ≠ Vid.zero :=
    fun v hv h => hzero (List.mem_map.2 ⟨v, hv, h⟩)
  obtain ⟨d', hall', harranged⟩ := Bridge.arranged_of_create hcreate hfault hfew hdistinct hbridge hvids
    hnonzero fun name => offers_network s.topology
  -- a bridge does its requests in one way only
  cases hall.symm.trans hall'
  have hd : d.Reachable := Bridge.Reachable.handleAll (.create hcreate) hall
  obtain ⟨i, place, hplaced, -⟩ := harranged.placed_of_mem hname
  obtain ⟨p, -, hrequire, -⟩ := hplaced.require_eq hd
  have hkept := d.keepsPorts_startAgeing (some {})
  rw [hstart] at hkept
  rw [hkept.currentHandle?]
  simp only [Traffic.currentHandle?, hplaced.portIndex_eq hd, Bridge.portHandle, hrequire, ne_eq,
    reduceCtorEq, not_false_eq_true]

theorem reading_build (h : build s = .ok b) (a : Account) : a.reading b.counters = 0 := by
  obtain ⟨c, d, hcreate, hall, hstart⟩ := build_eq_ok h
  have hageing := (Bridge.unseen_startAgeing d (some {})).counters
  rw [hstart] at hageing
  have hempty : c.counters = {} := by rw [Bridge.create_eq_ok hcreate]
  have hsame := (Bridge.sameFrames_handleAll (.create hcreate) hall).trans hageing
  rw [a.reading_of_sameFrames hsame, hempty, a.reading_zero]

end Simulation

namespace Traffic

variable {s : Scenario} {b : Bridge}

theorem port_traffics (s : Scenario) : (Simulation.traffics s).map (·.port) = s.topology.ports := by
  unfold Simulation.traffics
  rw [List.map_map]
  exact List.zipIdx_map_fst 0 s.topology.ports

theorem frames_of_mem {t : PortTraffic} (ht : t ∈ Simulation.traffics s) :
    t.frames = s.traffic.framesPerPort := by
  obtain ⟨p, -, rfl⟩ := List.mem_map.1 ht
  rfl

theorem port_mem {t : PortTraffic} (ht : t ∈ Simulation.traffics s) : t.port ∈ s.topology.ports :=
  List.mem_of_getElem? (mem_traffics ht).1

theorem frame_of_valid (hvalid : s.validate = .ok ()) {t : PortTraffic}
    (ht : t ∈ Simulation.traffics s) (d : Draw) : ∃ f, t.frame d = .ok f := by
  obtain ⟨-, -, hplan⟩ := Scenario.validate_eq_ok_iff.1 hvalid
  have hstations : s.traffic.stationsPerPort ≠ 0 := by
    intro hzero
    unfold TrafficPlan.fault? at hplan
    rw [if_pos hzero] at hplan
    split at hplan <;> cases hplan
  have hpeers : t.peers ≠ [] := by
    have hports := List.ne_nil_of_mem (port_mem ht)
    obtain ⟨p, -, rfl⟩ := List.mem_map.1 ht
    exact fun hnil => hports (List.map_eq_nil_iff.1 hnil)
  exact PortTraffic.frame_isOk ((mem_traffics ht).2 ▸ hstations) hpeers d

/-! ### Teams -/

theorem sum_map_set {α : Type} (f : α → Nat) {l : List α} {i n : Nat} {x y : α} (hx : l[i]? = some x)
    (hy : f y = f x + n) : ((l.set i y).map f).sum = (l.map f).sum + n := by
  induction l generalizing i with
  | nil => cases hx
  | cons z l ih =>
    cases i with
    | zero =>
      cases hx
      simp only [List.set_cons_zero, List.map_cons, List.sum_cons, hy]
      omega
    | succ i =>
      simp only [List.set_cons_succ, List.map_cons, List.sum_cons, ih hx]
      omega

theorem forall₂_set {α β : Type} {R : α → β → Prop} {l : List α} {u : List β} (h : List.Forall₂ R l u)
    {i : Nat} {y z : β} (hy : u[i]? = some y) (hz : ∀ x ∈ l, R x y → R x z) :
    List.Forall₂ R l (u.set i z) := by
  induction h generalizing i with
  | nil => cases hy
  | @cons x y' l u hxy _ ih =>
    cases i with
    | zero =>
      cases hy
      exact .cons (hz x List.mem_cons_self hxy) ‹_›
    | succ i => exact .cons hxy (ih hy fun x hx => hz x (List.mem_cons_of_mem _ hx))

theorem exists_of_mem_forall₂ {α β : Type} {R : α → β → Prop} {l : List α} {u : List β}
    (h : List.Forall₂ R l u) {y : β} (hy : y ∈ u) : ∃ x ∈ l, R x y := by
  induction h with
  | nil => cases hy
  | @cons x y' l u hxy _ ih =>
    rcases List.mem_cons.1 hy with rfl | hy
    · exact ⟨x, List.mem_cons_self, hxy⟩
    · obtain ⟨z, hz, hrel⟩ := ih hy
      exact ⟨z, List.mem_cons_of_mem _ hz, hrel⟩

theorem map_eq_of_forall₂ {α β γ : Type} {f : α → γ} {g : β → γ} {l : List α} {u : List β}
    (h : List.Forall₂ (fun x y => f x = g y) l u) : l.map f = u.map g := by
  induction h with
  | nil => rfl
  | cons hxy _ ih => rw [List.map_cons, List.map_cons, hxy, ih]

theorem forall₂_comp {α β γ : Type} {R : α → β → Prop} {S : β → γ → Prop} {l : List α} {u : List β}
    {v : List γ} (h : List.Forall₂ R l u) (k : List.Forall₂ S u v) :
    List.Forall₂ (fun x z => ∃ y, R x y ∧ S y z) l v := by
  induction h generalizing v with
  | nil =>
    cases k
    exact .nil
  | cons hxy _ ih =>
    cases k with
    | cons hyz hrest => exact .cons ⟨_, hxy, hyz⟩ (ih hrest)

namespace Team

/-- Each sender is on its way with its traffic, the ports are where they were, and the bridge has counted
what the senders are counted for. -/
structure Sound (ts : List PortTraffic) (m : Team) : Prop where
  attached : ∀ t ∈ ts, currentHandle? m.bridge t.port ≠ none
  serves : List.Forall₂ (fun t sender => sender.Serves t) ts m.senders
  booked : ∀ a : Account, a.IsOutcome →
    a.reading m.bridge.counters = UInt64.ofNat (m.senders.map (·.booked a)).sum

variable {ts : List PortTraffic} {m : Team}

theorem Sound.aside (h : m.Sound ts) {c : Bridge} (hports : m.bridge.KeepsPorts c)
    (hcounters : m.bridge.counters.SameFrames c.counters) : ({ m with bridge := c } : Team).Sound ts := by
  refine ⟨?_, h.serves, ?_⟩
  · intro t ht
    rw [hports.currentHandle?]
    exact h.attached t ht
  · intro a ha
    rw [a.reading_of_sameFrames hcounters]
    exact h.booked a ha

theorem Sound.turn (h : m.Sound ts) (hframes : ∀ t ∈ ts, ∀ d, ∃ f, t.frame d = .ok f) (turn : Turn) :
    (m.turn turn).Sound ts := by
  cases turn with
  | wake now => exact h.aside (m.bridge.keepsPorts_wake now) (m.bridge.unseen_wake now).counters
  | clock now => exact h.aside ⟨rfl, fun _ => rfl⟩ (.refl _)
  | work place d =>
    cases hplace : m.senders[place]? with
    | none =>
      rw [m.turn_of_none hplace]
      exact h
    | some sender =>
      rw [m.turn_of_some hplace]
      have hports := Sender.keepsPorts_go d m.bridge sender
      refine ⟨?_, ?_, ?_⟩
      · intro t ht
        rw [hports.currentHandle?]
        exact h.attached t ht
      · exact forall₂_set h.serves hplace fun t ht hserves =>
          hserves.go (hframes t ht) (h.attached t ht) d
      · intro a ha
        obtain ⟨t, ht, hserves⟩ := exists_of_mem_forall₂ h.serves (List.mem_of_getElem? hplace)
        -- the bridge and this one sender count the same, and no other sender has moved
        obtain ⟨n, hbooked, hreading⟩ := hserves.booked_go (b := m.bridge) ha (hframes t ht) d
        rw [hreading, h.booked a ha, sum_map_set _ hplace hbooked, UInt64.ofNat_add]

theorem Sound.turns (h : m.Sound ts) (hframes : ∀ t ∈ ts, ∀ d, ∃ f, t.frame d = .ok f)
    (turns : List Turn) : (m.turns turns).Sound ts :=
  turns_induction (fun _ turn hm => hm.turn hframes turn) h turns

theorem sound_gather (hvalid : s.validate = .ok ()) (hbuild : Simulation.build s = .ok b) :
    (gather b (Simulation.traffics s)).Sound (Simulation.traffics s) := by
  refine ⟨?_, ?_, ?_⟩
  · exact fun t ht => Simulation.currentHandle?_build hvalid hbuild (port_mem ht)
  · exact List.forall₂_map_right_iff.2 (List.forall₂_same.2 fun t _ => rfl)
  · intro a _
    have hnone : ((Simulation.traffics s).map Sender.waiting).map (·.booked a) =
        (Simulation.traffics s).map fun _ => 0 := by
      rw [List.map_map]
      rfl
    show a.reading b.counters =
      UInt64.ofNat (((Simulation.traffics s).map Sender.waiting).map (·.booked a)).sum
    rw [hnone, List.sum_map_zero, Simulation.reading_build hbuild]
    rfl

/-- Every run of a simulation's team keeps the counters and its senders together. -/
theorem sound_turns (hvalid : s.validate = .ok ()) (hbuild : Simulation.build s = .ok b)
    (turns : List Turn) :
    ((gather b (Simulation.traffics s)).turns turns).Sound (Simulation.traffics s) :=
  (sound_gather hvalid hbuild).turns (fun _ => frame_of_valid hvalid) turns

theorem Sound.finished (h : m.Sound ts) {sender : Sender} (hsender : sender ∈ m.senders)
    (hdue : sender.due = 0) : ∃ r, sender = .finished r := by
  obtain ⟨t, -, hserves⟩ := exists_of_mem_forall₂ h.serves hsender
  rcases Sender.ended_of_due hdue with hfinished | ⟨e, rfl⟩
  · exact hfinished
  · exact hserves.elim

end Team

/-! ### Agreement -/

/-- What a sender reports that has no frame to send any more. -/
def Sender.report? : Sender → Option WorkerReport
  | .idle w => if w.report.sent < w.traffic.frames then none else some w.report
  | .finished r => some r
  | .waiting _ | .sending .. | .returned .. | .failed _ => none

theorem Sender.booked_of_report? {sender : Sender} {r : WorkerReport} (h : sender.report? = some r)
    (a : Account) : sender.booked a = r.entry a := by
  cases sender with
  | idle w =>
    simp only [report?] at h
    split at h
    · cases h
    · cases h
      rfl
  | finished q =>
    cases h
    rfl
  | waiting | sending | returned | failed => cases h

theorem Sender.Serves.of_report? {t : PortTraffic} {sender : Sender} (h : sender.Serves t)
    {r : WorkerReport} (hr : sender.report? = some r) : (Sender.finished r).Serves t := by
  cases sender with
  | idle w =>
    have hw : w.Serves t := h
    simp only [Sender.report?] at hr
    split at hr
    · cases hr
    · rename_i hdone
      cases hr
      rw [hw.traffic] at hdone
      exact ⟨hw.port, hw.balanced, Nat.le_antisymm hw.within (Nat.not_lt.1 hdone)⟩
  | finished q =>
    cases hr
    exact h
  | waiting | sending | returned | failed => cases hr

/-- There is a report for each port, of as many frames as there should be, each of which it accounts for;
together the reports say what the bridge has counted, as far as its counters reach. -/
structure Agreement (s : Scenario) (b : Bridge) (reports : List WorkerReport) : Prop where
  ports : reports.map (·.port) = s.topology.ports
  sent : ∀ r ∈ reports, r.sent = s.traffic.framesPerPort
  balanced : ∀ r ∈ reports, r.delivered + r.trapped + (r.droppedByText.map (·.2)).sum = r.sent
  received : b.counters.rxFrames = UInt64.ofNat (reports.map (·.sent)).sum
  trapped : b.counters.trapped = UInt64.ofNat (reports.map (·.trapped)).sum
  dropped : ∀ reason : DropReason, b.counters.get reason.counter =
    UInt64.ofNat (reports.map (·.countUnder reason.text)).sum

/-- When every sender has reported, nothing is on its way. -/
theorem Team.Sound.agreement {m : Team} (h : m.Sound (Simulation.traffics s))
    {reports : List WorkerReport}
    (hreports : List.Forall₂ (fun sender r => sender.report? = some r) m.senders reports) :
    Agreement s m.bridge reports := by
  have hserved : List.Forall₂ (fun t r => (Sender.finished r).Serves t) (Simulation.traffics s) reports :=
    (forall₂_comp h.serves hreports).imp fun t r ⟨_, hserves, hr⟩ => hserves.of_report? hr
  have hdone : ∀ r ∈ reports, r.IsBalanced ∧ r.sent = s.traffic.framesPerPort := by
    intro r hr
    obtain ⟨t, ht, -, hbalanced, hsent⟩ := exists_of_mem_forall₂ hserved hr
    exact ⟨hbalanced, hsent.trans (frames_of_mem ht)⟩
  have hone : ∀ (a : Account) (c : Counter), a.IsOutcome → a.counters = [c] →
      m.bridge.counters.get c = UInt64.ofNat (reports.map (·.entry a)).sum := by
    intro a c ha hc
    have hentries : m.senders.map (·.booked a) = reports.map (·.entry a) :=
      map_eq_of_forall₂ (hreports.imp fun _ _ hr => Sender.booked_of_report? hr a)
    rw [Account.get_eq_reading hc, h.booked a ha, hentries]
  refine ⟨?_, fun r hr => (hdone r hr).2, fun r hr => (hdone r hr).1, ?_, ?_, ?_⟩
  · have hports := map_eq_of_forall₂ (hserved.imp fun t r hr => hr.1.symm)
    rw [← hports, port_traffics]
  · exact hone .received .rxFrames trivial rfl
  · exact hone .trapped .trapped trivial rfl
  · intro reason
    simp only [WorkerReport.countUnder_text]
    exact hone (.dropped reason) reason.counter trivial rfl

namespace Team

theorem exists_finished (hvalid : s.validate = .ok ()) (hbuild : Simulation.build s = .ok b)
    {turns : List Turn} (hturns : ∀ place < s.topology.ports.length,
      s.traffic.framesPerPort * Sender.frameTurns + 2 ≤ turns.countP (·.isOf place)) :
    ∃ reports : List WorkerReport,
      ((gather b (Simulation.traffics s)).turns turns).senders = reports.map .finished := by
  have hsound := sound_turns hvalid hbuild turns
  have hall : ∀ sender ∈ ((gather b (Simulation.traffics s)).turns turns).senders,
      sender ∈ Set.range Sender.finished := by
    intro sender hsender
    obtain ⟨place, hplace, hget⟩ := List.getElem_of_mem hsender
    have hlt : place < (Simulation.traffics s).length := hsound.serves.length_eq ▸ hplace
    have ht : (Simulation.traffics s)[place] ∈ Simulation.traffics s := List.getElem_mem hlt
    have hstart : (gather b (Simulation.traffics s)).senders[place]? =
        some (.waiting (Simulation.traffics s)[place]) := by
      show ((Simulation.traffics s).map Sender.waiting)[place]? = _
      rw [List.getElem?_map, List.getElem?_eq_getElem hlt]
      rfl
    -- it had no more turns to take at the start than it has been given
    obtain ⟨last, hlast, hdue⟩ := due_turns _ turns hstart
    rw [List.getElem?_eq_getElem hplace, hget] at hlast
    cases hlast
    have hports : place < s.topology.ports.length := by
      rw [← port_traffics, List.length_map]
      exact hlt
    have henough := hturns place hports
    have hzero : sender.due = 0 := by
      rw [Sender.due, frames_of_mem ht] at hdue
      omega
    obtain ⟨r, rfl⟩ := hsound.finished hsender hzero
    exact ⟨r, rfl⟩
  obtain ⟨reports, hreports⟩ := (Set.ext_iff.1 (Set.range_list_map Sender.finished) _).2 hall
  exact ⟨reports, hreports.symm⟩

/-- Whatever is drawn, and however the workers of a simulation and the ageing task take turns, in the
middle of their frames as well: workers that have taken enough turns have finished, with as many frames as
they should send, and what they report is what the bridge has counted. -/
theorem reports_agree (hvalid : s.validate = .ok ()) (hbuild : Simulation.build s = .ok b)
    {turns : List Turn} (hturns : ∀ place < s.topology.ports.length,
      s.traffic.framesPerPort * Sender.frameTurns + 2 ≤ turns.countP (·.isOf place)) :
    let m := (gather b (Simulation.traffics s)).turns turns
    (∃ reports, m.senders = reports.map .finished ∧ Agreement s m.bridge reports) ∧
      ∀ reason other : DropReason, reason.text = other.text → reason = other := by
  intro m
  obtain ⟨reports, hreports⟩ := exists_finished hvalid hbuild hturns
  refine ⟨⟨reports, hreports, ?_⟩, fun reason other => DropReason.text_injective⟩
  refine (sound_turns hvalid hbuild turns).agreement ?_
  rw [hreports]
  exact List.forall₂_map_left_iff.2 (List.forall₂_same.2 fun r _ => rfl)

/-- Two workers send two frames each, which are in the bridge at the same time, and the ageing task wakes in
between. The first worker's frames are in a VLAN that has no other port. Twenty rounds would be enough. -/
theorem reports_agree_two_workers :
    let s : Scenario := {
      topology := {
        ports := ["eth1", "eth2"]
        vlans := [{ vid := ⟨10, by decide⟩, tagged := ["eth1"] }] }
      traffic := { framesPerPort := 2, stationsPerPort := 2 } }
    let round : List Turn := [.work 0 { (default : Draw) with coin := 1 }, .wake 5, .work 1 default]
    let rounds (n : Nat) : List Turn := (List.replicate n round).flatten
    ∃ b, Simulation.build s = .ok b ∧
      (∀ place < 2, 2 * Sender.frameTurns + 2 ≤ (rounds 528).countP (·.isOf place)) ∧
      let m := (gather b (Simulation.traffics s)).turns (rounds 528)
      (∃ reports, m.senders = reports.map .finished ∧ Agreement s m.bridge reports) ∧
        ((gather b (Simulation.traffics s)).turns (rounds 20)).senders.filterMap Sender.report? = [
          { port := "eth1", sent := 2, dropped := [(.noDestination, 2)] },
          { port := "eth2", sent := 2, delivered := 2 }] := by
  intro s round rounds
  have hvalid : s.validate = .ok () := by decide +kernel
  have hturns : ∀ place < 2, 2 * Sender.frameTurns + 2 ≤ (rounds 528).countP (·.isOf place) := by
    decide +kernel
  have hreports : (Simulation.build s).toOption.map (fun b =>
      ((gather b (Simulation.traffics s)).turns (rounds 20)).senders.filterMap Sender.report?) = some [
        { port := "eth1", sent := 2, dropped := [(.noDestination, 2)] },
        { port := "eth2", sent := 2, delivered := 2 }] := by decide +kernel
  cases hbuild : Simulation.build s with
  | error e =>
    rw [hbuild] at hreports
    cases hreports
  | ok b =>
    rw [hbuild] at hreports
    obtain ⟨hagree, -⟩ := reports_agree hvalid hbuild hturns
    exact ⟨b, rfl, hturns, hagree, Option.some.inj hreports⟩

end Team

/-! ### One worker after the other -/

theorem Worker.sendFrames_ok (dice : Dice) (n : Nat) {w : Worker}
    (hframe : ∀ d, ∃ f, w.traffic.frame d = .ok f) (b : Bridge) :
    ∃ c v, w.sendFrames .silent dice n b = (c, .ok v) ∧ v.report.sent = w.report.sent + n := by
  induction n generalizing w b with
  | zero => exact ⟨b, w, rfl, rfl⟩
  | succ n ih =>
    have hstep : ∃ c v, w.step .silent b (dice w.report.sent) = (c, .ok v) := by
      obtain ⟨f, hf⟩ := hframe (dice w.report.sent)
      unfold Worker.step
      rw [hf]
      cases w.handle with
      | none => exact ⟨_, _, rfl⟩
      | some h => exact ⟨_, _, rfl⟩
    obtain ⟨c, v, hv⟩ := hstep
    obtain ⟨htraffic, hsent⟩ := Worker.sent_step hv
    obtain ⟨c', v', hrest, hsent'⟩ := ih (htraffic ▸ hframe) c
    refine ⟨c', v', ?_, ?_⟩
    · unfold Worker.sendFrames
      rw [hv]
      exact hrest
    · rw [hsent', hsent, Nat.add_assoc, Nat.add_comm 1 n]

theorem sent_runWorkers (dice : PortTraffic → Dice) {ts : List PortTraffic}
    (hframes : ∀ t ∈ ts, ∀ d, ∃ f, t.frame d = .ok f) (b : Bridge) :
    List.Forall₂ (fun t (r : WorkerReport) => r.sent = t.frames) ts
      (Simulation.runWorkers dice ts b).2 := by
  induction ts generalizing b with
  | nil => exact .nil
  | cons t ts ih =>
    have hframe : ∀ d, ∃ f, (Worker.start b t).traffic.frame d = .ok f := hframes t List.mem_cons_self
    obtain ⟨c, w, hsend, hsent⟩ := Worker.sendFrames_ok (dice t) t.frames hframe b
    have hport : runPort .silent (dice t) b t = (c, .ok w.report) := by
      unfold runPort
      simp only [Observer.silent] at hsend ⊢
      rw [hsend]
    have hstart : (Worker.start b t).report.sent = 0 := rfl
    simp only [Simulation.runWorkers, hport]
    refine .cons ?_ (ih (fun u hu => hframes u (List.mem_cons_of_mem _ hu)) c)
    rw [hsent, hstart, Nat.zero_add]

theorem forall₂_filterMap {α β : Type} {f : α → Option β} {l : List α}
    (h : (l.filterMap f).length = l.length) :
    List.Forall₂ (fun x y => f x = some y) l (l.filterMap f) := by
  induction l with
  | nil => exact .nil
  | cons x l ih =>
    cases hx : f x with
    | none =>
      rw [List.filterMap_cons_none hx, List.length_cons] at h
      have hle := List.length_filterMap_le f l
      omega
    | some y =>
      rw [List.filterMap_cons_some hx] at h ⊢
      exact .cons hx (ih (Nat.succ.inj h))

/-- The workers that a simulation runs one after the other agree with its bridge as well. -/
theorem agreement_runWorkers (hvalid : s.validate = .ok ()) (hbuild : Simulation.build s = .ok b)
    (dice : PortTraffic → Dice) :
    Agreement s (Simulation.runWorkers dice (Simulation.traffics s) b).1
      (Simulation.runWorkers dice (Simulation.traffics s) b).2 := by
  -- they are a crew that takes turns, and so a team
  obtain ⟨turns, threads, hturns, hreports⟩ :=
    Crew.exists_turns_runWorkers dice (Simulation.traffics s) b
  obtain ⟨finer, hfiner⟩ := Team.exists_turns_ofCrew (.gather b (Simulation.traffics s)) turns
  rw [Team.ofCrew_gather, hturns] at hfiner
  have hsound := Team.sound_turns hvalid hbuild finer
  rw [hfiner] at hsound
  have hsent := sent_runWorkers dice (fun t ht => frame_of_valid hvalid ht) b
  rw [← hreports] at hsent ⊢
  refine hsound.agreement ?_
  have hserves := hsound.serves
  have hlength : (threads.filterMap Thread.report?).length = threads.length := by
    rw [← hsent.length_eq, hserves.length_eq]
    exact List.length_map _
  refine List.forall₂_map_left_iff.2 ?_
  have hboth := forall₂_comp (List.forall₂_map_right_iff.1 hserves).flip hsent
  refine List.Forall₂.mp ?_ hboth (forall₂_filterMap hlength)
  rintro thread r ⟨t, hserved, hr⟩ hreport
  cases thread with
  | working w =>
    cases hreport
    have hw : w.Serves t := hserved
    have hdone : ¬ w.report.sent < w.traffic.frames := by
      rw [hw.traffic, hr]
      exact Nat.lt_irrefl _
    exact if_neg hdone
  | waiting | failed => cases hreport

end Traffic

end VlanBridge
