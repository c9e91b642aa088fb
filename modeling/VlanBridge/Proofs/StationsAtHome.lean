import VlanBridge.Proofs.Buildable
import VlanBridge.Proofs.Population
import VlanBridge.Proofs.Stations
import VlanBridge.Proofs.Workers
/-!
# Simulated stations stay at home

The workers of a simulation send frames of the stations behind their own ports only, and the address of a
station tells the port that it is behind. So each entry that the bridge learns is one of a station at its
port (`AtHome`), a frame of a station that has an entry refreshes it, and ageing takes whole entries out.
All of this holds whatever is drawn and in whatever order the workers and the ageing task take their turns.
-/

namespace VlanBridge

open VlanBridge.Net

/-! ### The bridge of a scenario -/

namespace Bridge

variable {b c : Bridge}

/-- Every name of a port leads to the slot that it led to. -/
def KeepsNames (b c : Bridge) : Prop := ∀ name i, b.portIndex name = .ok i → c.portIndex name = .ok i

theorem KeepsNames.refl (b : Bridge) : b.KeepsNames b := fun _ _ h => h

theorem keepsNames_of_ports (hb : b.Reachable) (hc : c.Reachable)
    (hports : ∀ i, c.ports.port? i = b.ports.port? i) : b.KeepsNames c := by
  intro name i h
  rw [portIndex_eq_ok_iff hb.sound_records.2] at h
  rw [portIndex_eq_ok_iff hc.sound_records.2, hports]
  exact h

theorem keepsNames_receive (b : Bridge) (h : Handle) (f : Frame) : b.KeepsNames (b.receive h f).1 := by
  obtain ⟨fdb, net, cs, he, -⟩ := receive_fst b h f
  rw [he]
  exact .refl b

/-- The requests by which a bridge is built have nothing to do with its entries. -/
theorem resting_handle_of_builds {net : Network} {r : Request} (hr : r.Builds net) :
    Resting b (b.handle r).1 := by
  rw [handle_fst]
  cases hop : b.operation? r with
  | none => exact .refl b
  | some op =>
    obtain ⟨hcontrol, -⟩ := operation?_eq_some hop
    have hkind : ¬ op.IsSingle ∧ op.remover? = none := by
      cases r with
      | portAdd =>
        obtain ⟨_, -, rfl⟩ := Option.map_eq_some_iff.1 hop
        exact ⟨id, rfl⟩
      | vlanAdd =>
        cases hop
        exact ⟨id, rfl⟩
      | vlanAttach | vlanDetach | portSetPvid =>
        simp only [operation?] at hop
        obtain ⟨n, rfl⟩ := named_eq_some hop
        exact ⟨id, rfl⟩
      | _ => exact hr.elim
    exact perform_resting hcontrol hkind.1 hkind.2

theorem resting_handleAll {net : Network} {rs : List Request} (hrs : ∀ r ∈ rs, r.Builds net)
    (h : b.handleAll rs = (c, .ok ())) : Resting b c := by
  induction rs generalizing b with
  | nil =>
    cases h
    exact .refl _
  | cons r rs ih =>
    obtain ⟨d, a, hr, hrest⟩ := handleAll_cons_eq_ok h
    have hone : Resting b (b.handle r).1 := resting_handle_of_builds (hrs r List.mem_cons_self)
    rw [hr] at hone
    exact hone.trans (ih (fun q hq => hrs q (List.mem_cons_of_mem _ hq)) hrest)

end Bridge

namespace Simulation

variable {s : Scenario} {b : Bridge}

/-- A bridge of a scenario is made, set up as the topology says, and begins to age its entries. -/
theorem build_eq_ok (h : build s = .ok b) :
    ∃ c d, Bridge.create s.bridge (network s.topology) = .ok c ∧
      c.handleAll s.topology.requests = (d, .ok ()) ∧ d.startAgeing (some {}) = (b, .ok ()) := by
  unfold build at h
  split at h
  · cases h
  · split at h
    · cases h
    · split at h
      · cases h
      · cases h
        exact ⟨_, _, ‹_›, ‹_›, ‹_›⟩

theorem few_ports (h : build s = .ok b) : s.topology.ports.length ≤ 255 := by
  obtain ⟨c, d, hcreate, hall, -⟩ := build_eq_ok h
  exact (Bridge.fits_of_handleAll hcreate hall).1

theorem reachable_build (h : build s = .ok b) : b.Reachable := by
  obtain ⟨c, d, hcreate, hall, hstart⟩ := build_eq_ok h
  have hd : d.Reachable := Bridge.Reachable.handleAll (.create hcreate) hall
  have hnext : (d.startAgeing (some {})).1.Reachable := hd.next (.perform (.startAgeing (some {})) trivial)
  rw [hstart] at hnext
  exact hnext

end Simulation

namespace Traffic

/-! ### Whose frames a worker sends -/

/-- The address of a station tells the port that it is behind, even where its own number does not fit in. -/
theorem ordinal_eq_of_station_eq {o m p n : Nat} (ho : o < 65536) (hp : p < 65536)
    (h : station o m = station p n) : o = p := by
  simp only [station, Mac.mk.injEq] at h
  obtain ⟨-, -, hhi, hlo, -, -⟩ := h
  exact eq_of_octets_eq ho hp hhi hlo

theorem PortTraffic.src?_of_frame {t : PortTraffic} {d : Draw} {f : Frame} (h : t.frame d = .ok f) :
    ∃ n, n < t.stations ∧ f.src? = some (station t.ordinal n) := by
  unfold frame at h
  split at h
  · rename_i src dst hsrc _
    cases h
    unfold source at hsrc
    split at hsrc
    · cases hsrc
    · rename_i hsome
      cases hsrc
      exact ⟨d.source % t.stations, Nat.mod_lt _ (Nat.pos_of_ne_zero hsome), rfl⟩
  · cases h
  · cases h

theorem mem_traffics {s : Scenario} {t : PortTraffic} (h : t ∈ Simulation.traffics s) :
    s.topology.ports[t.ordinal]? = some t.port ∧ t.stations = s.traffic.stationsPerPort := by
  obtain ⟨p, hp, rfl⟩ := List.mem_map.1 h
  exact ⟨List.mem_zipIdx_iff_getElem?.1 hp, rfl⟩

theorem currentHandle?_eq_some {b : Bridge} (hb : b.Reachable) {name : String} {h : Handle}
    (hcurrent : currentHandle? b name = some h) : ∃ i, i.val = h.index ∧ b.portIndex name = .ok i := by
  unfold currentHandle? at hcurrent
  split at hcurrent
  · cases hcurrent
  · rename_i i hi
    refine ⟨i, ?_, hi⟩
    unfold Bridge.portHandle at hcurrent
    cases hrequire : b.ports.require i.val with
    | error e =>
      rw [hrequire] at hcurrent
      cases hcurrent
    | ok p =>
      rw [hrequire] at hcurrent
      cases hcurrent
      obtain ⟨j, hj, hp⟩ := PortTable.require_eq_ok hrequire
      rw [hb.sound_records.2.handles j p hp, ← hj]

/-! ### Entries of stations at their ports -/

/-- An entry is dynamic and says of one of the stations behind a port of a topology that it is there. -/
structure AtHome (s : Scenario) (b : Bridge) (e : Entry) : Prop where
  origin : e.origin = .dynamic
  place : ∃ o n name i, s.topology.ports[o]? = some name ∧ n < s.traffic.stationsPerPort ∧
    e.key.address = .mac (station o n) ∧ b.portIndex name = .ok i ∧ e.ports = PortSet.singleton i

/-- No station has moved, and the entries are of stations at the ports of a bridge. -/
structure Settled (s : Scenario) (b : Bridge) (l : Learning) : Prop where
  unmoved : l.counters.stationMoves = 0
  entries : ∀ e ∈ l.fdb.entries, AtHome s b e

variable {s : Scenario} {b c d : Bridge} {l : Learning} {e : Entry} {i : PortIndex} {t : PortTraffic}

theorem AtHome.keeps (he : AtHome s b e) (hnames : b.KeepsNames c) : AtHome s c e := by
  obtain ⟨o, n, name, i, hname, hn, hkey, hi, hports⟩ := he.place
  exact ⟨he.origin, o, n, name, i, hname, hn, hkey, hnames name i hi, hports⟩

/-- A station behind the port it is seen at is where its entry says. -/
theorem AtHome.ports_eq (hfew : s.topology.ports.length ≤ 65536) (he : AtHome s b e) {o n : Nat}
    {name : String} (hkey : e.key.address = .mac (station o n)) (hname : s.topology.ports[o]? = some name)
    (hi : b.portIndex name = .ok i) : e.ports = PortSet.singleton i := by
  obtain ⟨p, m, other, j, hother, -, hkey', hj, hports⟩ := he.place
  have hlt : ∀ {k : Nat} {x : String}, s.topology.ports[k]? = some x → k < 65536 := by
    intro k x hk
    obtain ⟨hk, -⟩ := List.getElem?_eq_some_iff.1 hk
    omega
  have hstation : station p m = station o n := Address.mac.inj (hkey'.symm.trans hkey)
  have hsame : p = o := ordinal_eq_of_station_eq (hlt hother) (hlt hname) hstation
  subst hsame
  cases hother.symm.trans hname
  cases hj.symm.trans hi
  exact hports

namespace Settled

theorem keeps (h : Settled s b l) (hnames : b.KeepsNames c) : Settled s c l :=
  ⟨h.unmoved, fun e he => (h.entries e he).keeps hnames⟩

theorem rest (h : Settled s b c.toLearning) (hrest : Bridge.Resting c d) : Settled s b d.toLearning := by
  refine ⟨(hrest.counters .stationMoves rfl).trans h.unmoved, ?_⟩
  intro e he
  rw [hrest.fdb] at he
  exact h.entries e he

/-- What is left of an entry has a port, and that is the only one it had. -/
theorem emptied (h : Settled s b c.toLearning) (hwell : d.fdb.WellFormed)
    (hemptied : Bridge.Emptied .aged c d) : Settled s b d.toLearning := by
  constructor
  · have hmoves := hemptied.counters .stationMoves rfl
    rw [if_neg (by decide)] at hmoves
    exact hmoves.trans ((UInt64.add_zero _).trans h.unmoved)
  · intro e he
    obtain ⟨whole, hwhole, hshrunk⟩ := hemptied.entries e he
    have hhome := h.entries whole hwhole
    have horigin : e.origin = .dynamic := hshrunk.origin.trans hhome.origin
    obtain ⟨o, n, name, i, hname, hn, hkey, hi, hports⟩ := hhome.place
    obtain ⟨-, j, -, -, -, hleft⟩ := (hwell.entries e he).dynamic horigin
    have hj : j ∈ whole.ports := hshrunk.ports j (by rw [hleft, PortSet.mem_singleton])
    rw [hports, PortSet.mem_singleton] at hj
    subst hj
    exact ⟨horigin, o, n, name, j, hname, hn, hshrunk.key ▸ hkey, hi, hleft⟩

/-- A station that is seen at its port has an entry already, which stays there, or gets one. -/
theorem learn (h : Settled s b l) (hfew : s.topology.ports.length ≤ 65536) {o n : Nat} {name : String}
    (hname : s.topology.ports[o]? = some name) (hn : n < s.traffic.stationsPerPort)
    (hi : b.portIndex name = .ok i) (vid : Vid) (now : Int) :
    Settled s b (l.learn (station o n) vid i now).1 := by
  have hstation := station_isStation o n
  unfold Learning.learn
  cases hfind : l.fdb.find? (Key.mac vid (station o n)) with
  | none =>
    rw [Fdb.learn_of_new hstation hfind]
    refine ⟨h.unmoved, fun e he => ?_⟩
    rcases Ordered.mem_of_mem_insert he with rfl | he
    · exact ⟨rfl, o, n, name, i, hname, hn, rfl, hi, rfl⟩
    · exact h.entries e he
  | some old =>
    have hold := h.entries old (Fdb.mem_of_find? hfind)
    -- whichever entry has the address, it has the port already
    have hseen : ∀ e, AtHome s b e → e.key = Key.mac vid (station o n) → i ∈ e.ports := by
      intro e he hkey
      rw [he.ports_eq hfew (congrArg Key.address hkey) hname hi, PortSet.mem_singleton]
    rw [Fdb.learn_of_dynamic hstation hfind hold.origin, if_pos (hseen old hold (Fdb.find?_key hfind))]
    refine ⟨h.unmoved, fun e he => ?_⟩
    obtain ⟨e, hmem, rfl⟩ := List.mem_map.1 he
    have hhome := h.entries e hmem
    split
    · rename_i hkey
      obtain ⟨p, m, other, j, hrest⟩ := hhome.place
      have hports : (Fdb.seen e i (stamp now)).ports = e.ports := if_pos (hseen e hhome hkey)
      exact ⟨hhome.origin, p, m, other, j, hports ▸ hrest⟩
    · exact hhome

theorem receive (h : Settled s b b.toLearning) (hb : b.Reachable)
    (hfew : s.topology.ports.length ≤ 65536) (ht : t ∈ Simulation.traffics s) {draw : Draw} {f : Frame}
    (hframe : t.frame draw = .ok f) {handle : Handle} (hhandle : i.val = handle.index)
    (hi : b.portIndex t.port = .ok i) : Settled s b (b.receive handle f).1.toLearning := by
  have henter : Bridge.Resting b b.enter.1 := ⟨rfl, b.counters.sameEntries_count rfl⟩
  rcases Bridge.resting_receive b handle f with hrest | ⟨p, cl, g, src, hc, hsrc, hrest⟩
  · exact h.rest hrest
  · refine Settled.rest ?_ hrest
    have hentered : Settled s b b.enter.1.toLearning := h.rest henter
    obtain ⟨n, hn, hown⟩ := PortTraffic.src?_of_frame hframe
    cases hsrc.symm.trans hown
    obtain ⟨hname, hstations⟩ := mem_traffics ht
    obtain ⟨hp, -⟩ := Bridge.classified?_eq_some hc
    obtain ⟨j, hj, hslot⟩ := PortTable.resolve_eq_ok hp
    have hindex : p.index = i := by
      rw [hb.sound_records.2.index hslot]
      exact Fin.ext (hj.trans hhandle.symm)
    rcases Bridge.learnSource_eq b.enter.1 p cl (station t.ordinal n) with hsame | ⟨-, hlearn⟩
    · rw [hsame]
      exact hentered
    · rw [hlearn, hindex]
      exact hentered.learn hfew hname (hstations ▸ hn) hi cl.vid b.clock

end Settled

/-- A bridge that is built has not learned anything. -/
theorem settled_build (h : Simulation.build s = .ok b) : Settled s b b.toLearning := by
  obtain ⟨c, d, hcreate, hall, hstart⟩ := Simulation.build_eq_ok h
  have hbuilds := Topology.builds_requests (t := s.topology) fun name =>
    Simulation.offers_network s.topology
  have hageing : Bridge.Resting d (d.startAgeing (some {})).1 := Bridge.resting_startAgeing d (some {})
  rw [hstart] at hageing
  have hnew : Settled s b c.toLearning := by
    rw [Bridge.create_eq_ok hcreate]
    exact ⟨rfl, nofun⟩
  exact hnew.rest ((Bridge.resting_handleAll hbuilds hall).trans hageing)

/-! ### Turns -/

/-- A thread sends the traffic of a port of the scenario, and into that port. -/
def Thread.Own (s : Scenario) (b : Bridge) : Thread → Prop
  | .waiting t => t ∈ Simulation.traffics s
  | .working w => w.traffic ∈ Simulation.traffics s ∧
    ∀ h, w.handle = some h → ∃ i, i.val = h.index ∧ b.portIndex w.traffic.port = .ok i
  | .failed _ => True

/-- What holds of a bridge and the threads of the workers, whoever takes a turn. -/
structure Crew.Home (s : Scenario) (c : Crew) : Prop where
  reachable : c.bridge.Reachable
  settled : Settled s c.bridge c.bridge.toLearning
  threads : ∀ thread ∈ c.threads, thread.Own s c.bridge

theorem Thread.Own.keeps {thread : Thread} (h : thread.Own s b) (hnames : b.KeepsNames c) :
    thread.Own s c := by
  cases thread with
  | waiting t => exact h
  | working w =>
    refine ⟨h.1, fun handle hhandle => ?_⟩
    obtain ⟨i, hi, hname⟩ := h.2 handle hhandle
    exact ⟨i, hi, hnames _ i hname⟩
  | failed e => trivial

theorem own_start (hb : b.Reachable) (ht : t ∈ Simulation.traffics s) :
    (Thread.working (.start b t)).Own s b :=
  ⟨ht, fun _ hhandle => currentHandle?_eq_some hb hhandle⟩

theorem own_after (hb : b.Reachable) {w : Worker} (h : (Thread.working w).Own s b) (v : Verdict) :
    (Thread.working (w.after b v)).Own s b := by
  refine ⟨h.1, fun handle hhandle => ?_⟩
  unfold Worker.after at hhandle
  split at hhandle
  · exact currentHandle?_eq_some hb hhandle
  · exact h.2 handle hhandle

/-- A thread that goes on leaves the names of the ports alone and keeps to its own port. -/
theorem home_go (hb : b.Reachable) (hsettled : Settled s b b.toLearning)
    (hfew : s.topology.ports.length ≤ 65536) {thread : Thread} (h : thread.Own s b) (draw : Draw) :
    (thread.go b draw).1.Reachable ∧ b.KeepsNames (thread.go b draw).1 ∧
      Settled s b (thread.go b draw).1.toLearning ∧
      (thread.go b draw).2.Own s (thread.go b draw).1 := by
  cases thread with
  | waiting t => exact ⟨hb, .refl b, hsettled, own_start hb h⟩
  | failed e => exact ⟨hb, .refl b, hsettled, trivial⟩
  | working w =>
    unfold Thread.go
    simp only
    split
    · rcases w.step_cases b draw with ⟨e, he⟩ | ⟨-, hmissed⟩ | ⟨handle, f, hhandle, hframe, hsent⟩
      · rw [he]
        exact ⟨hb, .refl b, hsettled, trivial⟩
      · rw [hmissed]
        exact ⟨hb, .refl b, hsettled, own_after hb h _⟩
      · obtain ⟨i, hi, hport⟩ := h.2 handle hhandle
        have hafter : (b.receive handle f).1.Reachable := hb.next (.receive handle f)
        have hnames := Bridge.keepsNames_receive b handle f
        rw [hsent]
        exact ⟨hafter, hnames, hsettled.receive hb hfew h.1 hframe hi hport,
          own_after hafter (h.keeps hnames) _⟩
    · exact ⟨hb, .refl b, hsettled, h⟩

namespace Crew

theorem home_gather (h : Simulation.build s = .ok b) : (gather b (Simulation.traffics s)).Home s := by
  refine ⟨Simulation.reachable_build h, settled_build h, fun thread hthread => ?_⟩
  obtain ⟨t, ht, rfl⟩ := List.mem_map.1 hthread
  exact ht

/-- The threads that have not gone on are where they were. -/
theorem Home.step {c : Crew} (h : c.Home s) (hb : b.Reachable) (hnames : c.bridge.KeepsNames b)
    (hsettled : Settled s c.bridge b.toLearning) {threads : List Thread}
    (hthreads : ∀ thread ∈ threads, thread ∈ c.threads ∨ thread.Own s b) :
    (⟨b, threads⟩ : Crew).Home s := by
  refine ⟨hb, hsettled.keeps hnames, fun thread hthread => ?_⟩
  rcases hthreads thread hthread with hold | hown
  · exact (h.threads thread hold).keeps hnames
  · exact hown

theorem Home.turn {c : Crew} (h : c.Home s) (hfew : s.topology.ports.length ≤ 65536) (turn : Turn) :
    (c.turn turn).Home s := by
  cases turn with
  | work place draw =>
    cases hplace : c.threads[place]? with
    | none =>
      rw [c.turn_of_none hplace]
      exact h
    | some thread =>
      rw [c.turn_of_some hplace]
      have hown := h.threads thread (List.mem_of_getElem? hplace)
      obtain ⟨hb, hnames, hsettled, hgone⟩ := home_go h.reachable h.settled hfew hown draw
      refine h.step hb hnames hsettled fun other hother => ?_
      rcases List.mem_or_eq_of_mem_set hother with hold | rfl
      · exact Or.inl hold
      · exact Or.inr hgone
  | wake now =>
    have hb : (c.bridge.next (.wake now)).Reachable := h.reachable.next (.wake now)
    have hports : ∀ i, (c.bridge.wake now).ports.port? i = c.bridge.ports.port? i :=
      fun i => (Bridge.reclaim_tables _).1 i
    have hnames := Bridge.keepsNames_of_ports h.reachable hb hports
    have hsettled := h.settled.emptied hb.wellFormed (Bridge.emptied_wake c.bridge now)
    exact h.step hb hnames hsettled fun _ => Or.inl
  | clock now =>
    have hsame : Bridge.Resting c.bridge (c.bridge.next (.clock now)) := ⟨rfl, .refl _⟩
    exact h.step (h.reachable.next (.clock now)) (.refl c.bridge) (h.settled.rest hsame) fun _ => Or.inl

theorem home_turns (h : Simulation.build s = .ok b) (turns : List Turn) :
    ((gather b (Simulation.traffics s)).turns turns).Home s := by
  have hfew := Simulation.few_ports h
  refine turns_induction (fun c turn hc => ?_) (home_gather h) turns
  exact hc.turn (by omega) turn

/-- Whatever is drawn, and in whatever order the workers of a simulation send their frames and the ageing
task wakes, no station moves, and each entry is of a station behind the port that it says. -/
theorem stations_at_home (hbuild : Simulation.build s = .ok b) (turns : List Turn) :
    let c := (gather b (Simulation.traffics s)).turns turns
    c.bridge.counters.stationMoves = 0 ∧ ∀ e ∈ c.bridge.fdb.entries, AtHome s c.bridge e := by
  intro c
  have hc : c.Home s := home_turns hbuild turns
  exact ⟨hc.settled.unmoved, hc.settled.entries⟩

/-- Two workers send frames in turns, one of them in two VLANs, and the ageing task wakes in between. The
second station of the first port has an entry in both VLANs. -/
theorem stations_at_home_trunk :
    let s : Scenario := {
      topology := {
        ports := ["eth1", "eth2"]
        vlans := [{ vid := ⟨10, by decide⟩, tagged := ["eth1"] }] }
      traffic := { stationsPerPort := 2 } }
    let plain (n : Nat) : Draw := { (default : Draw) with source := n }
    let tagged (n : Nat) : Draw := { (default : Draw) with source := n, coin := 1 }
    let turns : List Turn := [.work 0 (plain 0), .work 1 (plain 0), .work 1 (plain 2), .clock 5,
      .work 0 (tagged 1), .wake 7, .work 0 (plain 3), .work 1 (plain 0), .work 0 (tagged 3)]
    ∃ b, Simulation.build s = .ok b ∧
      let c := (gather b (Simulation.traffics s)).turns turns
      c.bridge.counters.stationMoves = 0 ∧ (∀ e ∈ c.bridge.fdb.entries, AtHome s c.bridge e) ∧
        c.bridge.fdb.entries.map (·.key) = [Key.mac Vid.zero (station 0 1),
          Key.mac Vid.zero (station 1 0), Key.mac ⟨10, by decide⟩ (station 0 1)] := by
  intro s plain tagged turns
  have hkeys : (Simulation.build s).toOption.map (fun b =>
      ((gather b (Simulation.traffics s)).turns turns).bridge.fdb.entries.map (·.key)) =
      some [Key.mac Vid.zero (station 0 1), Key.mac Vid.zero (station 1 0),
        Key.mac ⟨10, by decide⟩ (station 0 1)] := by decide +kernel
  cases hbuild : Simulation.build s with
  | error e =>
    rw [hbuild] at hkeys
    cases hkeys
  | ok b =>
    rw [hbuild] at hkeys
    obtain ⟨hmoves, hhome⟩ := stations_at_home hbuild turns
    exact ⟨b, rfl, hmoves, hhome, Option.some.inj hkeys⟩

/-- The workers of a simulation leave every station at home, one after the other as well. -/
theorem settled_runWorkers (h : Simulation.build s = .ok b) (dice : PortTraffic → Dice) :
    let c := (Simulation.runWorkers dice (Simulation.traffics s) b).1
    Settled s c c.toLearning := by
  intro c
  obtain ⟨turns, threads, hturns, -⟩ := exists_turns_runWorkers dice (Simulation.traffics s) b
  have hhome := home_turns h turns
  rw [hturns] at hhome
  exact hhome.settled

end Crew

end Traffic

end VlanBridge
