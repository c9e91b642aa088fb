import Mathlib.Algebra.BigOperators.Group.List.Basic
import Mathlib.Data.UInt
import VlanBridge.Proofs.Admissions
import VlanBridge.Proofs.Isolation
import VlanBridge.Proofs.Surroundings
/-!
# Accounting for frames

A frame is counted at several points of its way: when it comes in, when its destination has been looked
up, each time it is handed over, and when it is dropped or trapped. The counters of frames are grouped
into accounts. `share` says from the end of a frame alone what it adds to an account; every step of a run
adds just that (`next_booked`), and the equations between the counters follow.
-/

namespace VlanBridge

open VlanBridge.Net

def Verdict.ports : Verdict → Nat
  | .delivered n => n
  | .trapped | .dropped _ => 0

def Verdict.isDelivered : Verdict → Bool
  | .delivered _ => true
  | .trapped | .dropped _ => false

/-- Whether it is the end of a frame whose destination has been looked up. -/
def Verdict.isResolved : Verdict → Bool
  | .delivered _ | .dropped .noDestination | .dropped .transmitFailed => true
  | .trapped | .dropped _ => false

/-- What frames are counted for. -/
inductive Account where
  | received
  | trapped
  | dropped (reason : DropReason)
  /-- The destination has been looked up. -/
  | resolved
  /-- Handed over and taken. -/
  | sent
  /-- Handed over and not taken. -/
  | refused

namespace Account

def counters : Account → List Counter
  | .received => [.rxFrames]
  | .trapped => [.trapped]
  | .dropped reason => [reason.counter]
  | .resolved => [.flooded, .unicastHits, .groupHits]
  | .sent => [.txFrames, .localDelivered]
  | .refused => [.txErrors]

def reading (a : Account) (cs : Counters) : UInt64 := (a.counters.map cs.get).sum

/-- What the end of a frame says about an account. -/
def ofVerdict (a : Account) (v : Verdict) : Nat :=
  match a with
  | .received => 1
  | .trapped => if v = .trapped then 1 else 0
  | .dropped reason => if v = .dropped reason then 1 else 0
  | .resolved => if v.isResolved then 1 else 0
  | .sent | .refused => 0

/-- What one port that the frame was handed to says about an account. -/
def ofEmission (a : Account) (e : Emission) : Nat :=
  match a with
  | .sent => if e.accepted then 1 else 0
  | .refused => if e.accepted then 0 else 1
  | _ => 0

/-- What is counted for an account as a frame ends. -/
def atEnd (a : Account) : Verdict → Nat
  | .dropped reason => a.counters.count reason.counter
  | .delivered _ | .trapped => 0

/-- What a frame adds to an account. -/
def share (a : Account) (r : Reception) : Nat :=
  a.ofVerdict r.verdict + (r.sent.map a.ofEmission).sum

/-! ### Reading an account -/

theorem sum_get_count (ks : List Counter) (cs : Counters) (c : Counter) :
    (ks.map (cs.count c).get).sum = (ks.map cs.get).sum + UInt64.ofNat (ks.count c) := by
  induction ks with
  | nil => rfl
  | cons k ks ih =>
    have hget := cs.get_count c k
    simp only [List.map_cons, List.sum_cons, List.count_cons, beq_iff_eq]
    by_cases hk : k = c
    · rw [if_pos hk] at hget
      rw [if_pos hk, hget, ih, UInt64.ofNat_add]
      have hone : UInt64.ofNat 1 = 1 := rfl
      rw [hone]
      ac_rfl
    · rw [if_neg hk] at hget
      rw [if_neg hk, hget, ih, Nat.add_zero]
      ac_rfl

theorem reading_count (a : Account) (cs : Counters) (c : Counter) :
    a.reading (cs.count c) = a.reading cs + UInt64.ofNat (a.counters.count c) :=
  sum_get_count a.counters cs c

theorem ofEntries_of_mem {a : Account} {c : Counter} (h : c ∈ a.counters) : c.ofEntries = false := by
  cases a with
  | dropped reason =>
    rw [List.mem_singleton.1 h]
    cases reason <;> rfl
  | received | trapped | resolved | sent | refused => revert c; decide

theorem get_eq_reading {a : Account} {c : Counter} (hc : a.counters = [c]) (cs : Counters) :
    cs.get c = a.reading cs := by
  rw [reading, hc]
  exact (UInt64.add_zero _).symm

theorem reading_zero (a : Account) : a.reading {} = 0 := by
  cases a with
  | dropped reason => cases reason <;> rfl
  | received | trapped | resolved | sent | refused => rfl

theorem reading_of_sameFrames (a : Account) {cs ds : Counters} (h : cs.SameFrames ds) :
    a.reading ds = a.reading cs := by
  have hsame : a.counters.map ds.get = a.counters.map cs.get :=
    List.map_congr_left fun c hc => h c (ofEntries_of_mem hc)
  rw [reading, hsame]
  rfl

theorem count_taken (a : Account) {c : Counter} (hc : c = .localDelivered ∨ c = .txFrames)
    {i : PortIndex} {f : Frame} : a.counters.count c = a.ofEmission ⟨i, f, true⟩ := by
  cases a with
  | dropped reason => rcases hc with rfl | rfl <;> cases reason <;> rfl
  | received | trapped | resolved | sent | refused => rcases hc with rfl | rfl <;> rfl

theorem count_refused (a : Account) {i : PortIndex} {f : Frame} :
    a.counters.count .txErrors = a.ofEmission ⟨i, f, false⟩ := by
  cases a with
  | dropped reason => cases reason <;> rfl
  | received | trapped | resolved | sent | refused => rfl

theorem count_hit (a : Account) {c : Counter}
    (hc : c = .flooded ∨ c = .unicastHits ∨ c = .groupHits) :
    a.counters.count c = a.counters.count .flooded := by
  cases a with
  | dropped reason => rcases hc with rfl | rfl | rfl <;> cases reason <;> rfl
  | received | trapped | resolved | sent | refused => rcases hc with rfl | rfl | rfl <;> rfl

/-- What the end of a frame says has been counted on its way. -/
theorem ofVerdict_eq (a : Account) (v : Verdict) :
    a.ofVerdict v = a.counters.count .rxFrames
      + (if v.isResolved then a.counters.count .flooded else 0)
      + (if v = .trapped then a.counters.count .trapped else 0) + a.atEnd v := by
  cases a with
  | dropped reason =>
    cases v with
    | dropped actual => cases reason <;> cases actual <;> rfl
    | delivered | trapped => cases reason <;> rfl
  | received | trapped | resolved | sent | refused =>
    cases v with
    | dropped actual => cases actual <;> rfl
    | delivered | trapped => rfl

end Account

namespace Bridge

variable {b c d : Bridge} {f g : Account → Nat}

/-- Each account has grown by its shares, modulo 2^64. -/
def Booked (b c : Bridge) (shares : Account → Nat) : Prop :=
  ∀ a : Account, a.reading c.counters = a.reading b.counters + UInt64.ofNat (shares a)

theorem Booked.trans (h : Booked b c f) (k : Booked c d g) : Booked b d fun a => f a + g a := by
  intro a
  rw [k a, h a, UInt64.ofNat_add, UInt64.add_assoc]

theorem booked_of_sameFrames (h : b.counters.SameFrames c.counters) : Booked b c fun _ => 0 := by
  intro a
  rw [a.reading_of_sameFrames h]
  exact (UInt64.add_zero _).symm

theorem booked_refl (b : Bridge) : Booked b b fun _ => 0 := booked_of_sameFrames (.refl _)

theorem booked_count (b : Bridge) (c : Counter) : Booked b (b.count c) (·.counters.count c) :=
  fun a => a.reading_count b.counters c

/-! ### The way of a frame -/

theorem booked_learnSource (b : Bridge) (p : Port) (c : Classification) (src : Mac) :
    Booked b (b.learnSource p c src) fun _ => 0 :=
  booked_of_sameFrames (unseen_learnSource b p c src).counters

theorem booked_enter (b : Bridge) : Booked b b.enter.1 (·.counters.count .rxFrames) :=
  fun a => a.reading_count b.counters .rxFrames

theorem booked_leave (b : Bridge) (guard : Guard) (v : Verdict) :
    Booked b (b.leave guard v) (·.atEnd v) := by
  cases v with
  | dropped reason => exact fun a => a.reading_count b.counters reason.counter
  | delivered | trapped => exact booked_refl _

theorem booked_send (b : Bridge) (flight : Flight) (p : Port) :
    Booked b (b.send flight p).1 (·.ofEmission (b.send flight p).2) := by
  intro a
  unfold send handOver
  cases p.endpoint with
  | localStack =>
    simp only [← a.count_taken (Or.inl rfl)]
    exact a.reading_count b.counters .localDelivered
  | device id =>
    simp only
    cases (b.network.transmit id (b.outgoing flight p.index)).2 with
    | true =>
      simp only [← a.count_taken (Or.inr rfl)]
      exact a.reading_count b.counters .txFrames
    | false =>
      simp only [← a.count_refused]
      exact a.reading_count b.counters .txErrors

theorem booked_sendAll (flight : Flight) (ps : List Port) (b : Bridge) :
    Booked b (sendAll flight ps b).1 fun a => ((sendAll flight ps b).2.map a.ofEmission).sum := by
  induction ps generalizing b with
  | nil => exact booked_refl _
  | cons p ps ih =>
    rw [sendAll_cons]
    simp only [List.map_cons, List.sum_cons]
    exact (booked_send b flight p).trans (ih _)

theorem Booked.congr (h : Booked b c f) (hfg : ∀ a, f a = g a) : Booked b c g := by
  intro a
  rw [h a, hfg]

theorem isResolved_verdictOf (sent : List Emission) :
    (verdictOf sent).isResolved = true ∧ verdictOf sent ≠ .trapped := by
  rw [verdictOf_eq]
  split
  · exact ⟨rfl, nofun⟩
  · split
    · exact ⟨rfl, nofun⟩
    · exact ⟨rfl, nofun⟩

theorem not_isResolved_of_isEarly {reason : DropReason} (h : reason.IsEarly) :
    (Verdict.dropped reason).isResolved = false := by
  rcases h with rfl | rfl | rfl
  · rfl
  · rfl
  · rfl

theorem resolve_counter (b : Bridge) (v : Vlan) (vid : Vid) (f : Frame) (dst : Mac) :
    (b.resolve v vid f dst).2 = .flooded ∨ (b.resolve v vid f dst).2 = .unicastHits ∨
      (b.resolve v vid f dst).2 = .groupHits := by
  unfold resolve
  simp only
  split
  · rename_i key _
    split
    · cases key.address.isGroup with
      | true => exact Or.inr (Or.inr rfl)
      | false => exact Or.inr (Or.inl rfl)
    · exact Or.inl rfl
  · exact Or.inl rfl

/-- A frame adds to each account what its end says. -/
theorem receive_booked (b : Bridge) (h : Handle) (f : Frame) :
    Booked b (b.receive h f).1 (·.share (b.receive h f).2) := by
  have hcourse := course_receive b h f
  -- the shares are added up in the order of the way and then compared with what the end says
  have henter := booked_enter b
  generalize b.receive h f = o at hcourse ⊢
  cases hcourse with
  | @unclassified reason hearly _ =>
    refine (henter.trans (booked_leave _ _ _)).congr fun a => ?_
    simp only [Account.share, a.ofVerdict_eq, not_isResolved_of_isEarly hearly, List.map_nil,
      List.sum_nil, reduceCtorEq, Bool.false_eq_true, if_false, Nat.add_zero]
  | @trapped p c g src _ _ =>
    have hlearn := henter.trans (booked_learnSource _ p c src)
    refine ((hlearn.trans (booked_count _ .trapped)).trans (booked_leave _ _ _)).congr fun a => ?_
    simp only [Account.share, a.ofVerdict_eq, Verdict.isResolved, List.map_nil, List.sum_nil,
      Bool.false_eq_true, if_false, if_true, Nat.add_zero]
  | @notAllowed p c g src _ _ =>
    have hlearn := henter.trans (booked_learnSource _ p c src)
    refine (hlearn.trans (booked_leave _ _ _)).congr fun a => ?_
    simp only [Account.share, a.ofVerdict_eq, Verdict.isResolved, List.map_nil, List.sum_nil,
      reduceCtorEq, Bool.false_eq_true, if_false, Nat.add_zero]
  | @sent p c g dst src r l flight after _ _ _ _ hl _ hafter =>
    have hlearn := henter.trans (booked_learnSource _ p c src)
    rw [← hl] at hlearn
    have hsent := booked_sendAll flight flight.targets (l.count (l.resolve r.vlan c.vid g dst).2)
    rw [← hafter] at hsent
    obtain ⟨hresolved, htrapped⟩ := isResolved_verdictOf after.2
    refine (((hlearn.trans (booked_count _ _)).trans hsent).trans (booked_leave _ _ _)).congr
      fun a => ?_
    simp only [Account.share, a.ofVerdict_eq, hresolved, htrapped, if_true, if_false, Nat.add_zero,
      a.count_hit (resolve_counter l r.vlan c.vid g dst)]
    omega

theorem ports_receive (b : Bridge) (h : Handle) (f : Frame) :
    (b.receive h f).2.verdict.ports = (b.receive h f).2.sent.countP (·.accepted) := by
  have hcourse := course_receive b h f
  generalize b.receive h f = o at hcourse ⊢
  cases hcourse with
  | unclassified | trapped | notAllowed => rfl
  | @sent p c g dst src r l flight after _ _ _ _ _ _ _ =>
    simp only [verdictOf_eq]
    split
    · rename_i hnil
      rw [hnil]
      rfl
    · split
      · rename_i hnone
        exact hnone.symm
      · rfl

/-! ### Runs -/

/-- What has become of the frames of a run. -/
def receptions (b : Bridge) (events : List Event) : List Reception :=
  (b.history events).filterMap (·.reception?)

theorem next_booked (hs : b.Sound) (e : Event) :
    Booked b (b.next e) fun a => ((Moment.reception? ⟨b, e⟩).toList.map a.share).sum := by
  cases e with
  | receive h f => exact receive_booked b h f
  | network net => exact booked_refl _
  | perform op control =>
    exact booked_of_sameFrames (perform_effects hs control).sameFrames
  | request r =>
    exact booked_of_sameFrames (next_effects hs (e := .request r) nofun nofun).sameFrames
  | wake now => exact booked_of_sameFrames (unseen_wake b now).counters
  | clock | trap => exact booked_refl _

theorem run_booked (hb : b.Reachable) (events : List Event) :
    Booked b (b.run events) fun a => ((b.receptions events).map a.share).sum := by
  induction events generalizing b with
  | nil => exact booked_refl _
  | cons e es ih =>
    refine ((next_booked hb.sound e).trans (ih (hb.next e))).congr fun a => ?_
    unfold receptions
    simp only [history, List.filterMap_cons]
    cases Moment.reception? ⟨b, e⟩ with
    | none => exact Nat.zero_add _
    | some r =>
      simp only [Option.toList_some, List.map_cons, List.map_nil, List.sum_cons, List.sum_nil,
        Nat.add_zero]

theorem exists_of_mem_receptions {events : List Event} {r : Reception}
    (hr : r ∈ b.receptions events) : ∃ (c : Bridge) (h : Handle) (f : Frame), r = (c.receive h f).2 := by
  obtain ⟨m, -, hm⟩ := List.mem_filterMap.1 hr
  unfold Moment.reception? at hm
  split at hm
  · cases hm
    exact ⟨_, _, _, rfl⟩
  · cases hm

end Bridge

/-! ### Totals -/

namespace Account

def total (a : Account) (rs : List Reception) : Nat := (rs.map a.share).sum

theorem sum_map_ite {α : Type} (p : α → Bool) (l : List α) :
    (l.map fun x => if p x then 1 else 0).sum = l.countP p := by
  induction l with
  | nil => rfl
  | cons x xs ih => rw [List.map_cons, List.sum_cons, ih, List.countP_cons, Nat.add_comm]

theorem share_eq_ofVerdict {a : Account} (ha : ∀ e, a.ofEmission e = 0) (r : Reception) :
    a.share r = a.ofVerdict r.verdict := by
  have hzero : a.ofEmission = fun _ => 0 := funext ha
  rw [share, hzero, List.sum_map_zero, Nat.add_zero]

theorem total_dropped (reason : DropReason) (rs : List Reception) :
    (dropped reason).total rs = rs.countP (·.verdict = .dropped reason) := by
  have hshare : (dropped reason).share =
      fun r : Reception => if decide (r.verdict = .dropped reason) then 1 else 0 := by
    funext r
    rw [share_eq_ofVerdict fun _ => rfl]
    simp only [ofVerdict, decide_eq_true_eq]
  rw [total, hshare, sum_map_ite]

theorem share_dropped (reason : DropReason) (r : Reception) :
    (dropped reason).share r = (dropped reason).ofVerdict r.verdict :=
  share_eq_ofVerdict (fun _ => rfl) r

/-- Every frame that comes in is delivered, trapped, or dropped for one reason. -/
theorem total_received (rs : List Reception) :
    received.total rs = rs.countP (·.verdict.isDelivered) + trapped.total rs
      + ((dropped .runt).total rs + (dropped .tagParse).total rs + (dropped .vlanNotAllowed).total rs
      + (dropped .portInactive).total rs + (dropped .noDestination).total rs
      + (dropped .cloneFailure).total rs + (dropped .transmitFailed).total rs) := by
  have hshare : received.share = fun r => (if r.verdict.isDelivered then 1 else 0) + trapped.share r
      + ((dropped .runt).share r + (dropped .tagParse).share r + (dropped .vlanNotAllowed).share r
      + (dropped .portInactive).share r + (dropped .noDestination).share r
      + (dropped .cloneFailure).share r + (dropped .transmitFailed).share r) := by
    funext r
    have hreceived : received.share r = received.ofVerdict r.verdict :=
      share_eq_ofVerdict (fun _ => rfl) r
    have htrapped : trapped.share r = trapped.ofVerdict r.verdict :=
      share_eq_ofVerdict (fun _ => rfl) r
    simp only [hreceived, htrapped, share_dropped]
    cases r.verdict with
    | dropped reason => cases reason <;> rfl
    | delivered | trapped => rfl
  simp only [total, hshare, List.sum_map_add, sum_map_ite]

/-- A frame whose destination has been looked up is delivered, or dropped for want of a port that takes
it. -/
theorem total_resolved (rs : List Reception) :
    resolved.total rs = rs.countP (·.verdict.isDelivered)
      + ((dropped .noDestination).total rs + (dropped .transmitFailed).total rs) := by
  have hshare : resolved.share = fun r => (if r.verdict.isDelivered then 1 else 0)
      + ((dropped .noDestination).share r + (dropped .transmitFailed).share r) := by
    funext r
    have hresolved : resolved.share r = resolved.ofVerdict r.verdict :=
      share_eq_ofVerdict (fun _ => rfl) r
    simp only [hresolved, share_dropped]
    cases r.verdict with
    | dropped reason => cases reason <;> rfl
    | delivered | trapped => rfl
  simp only [total, hshare, List.sum_map_add, sum_map_ite]

theorem total_sent {rs : List Reception}
    (h : ∀ r ∈ rs, r.verdict.ports = r.sent.countP (·.accepted)) :
    sent.total rs = (rs.map (·.verdict.ports)).sum := by
  have hshare : ∀ r ∈ rs, sent.share r = r.verdict.ports := by
    intro r hr
    rw [h r hr, ← sum_map_ite]
    exact Nat.zero_add _
  rw [total, List.map_congr_left hshare]

theorem total_refused (rs : List Reception) :
    refused.total rs = (rs.flatMap (·.sent)).countP (!·.accepted) := by
  have hshare : refused.share = fun r => r.sent.countP (!·.accepted) := by
    funext r
    rw [← sum_map_ite]
    have hone : refused.ofEmission = fun e => if (!e.accepted) = true then 1 else 0 := by
      funext e
      cases e with
      | mk i f accepted => cases accepted <;> rfl
    rw [share, hone]
    exact Nat.zero_add _
  rw [total, hshare, List.countP_flatMap]
  rfl

end Account

namespace Bridge

theorem reading_run {config : BridgeConfig} {network : Network}
    (hb : Bridge.create config network = .ok b) (events : List Event) (a : Account) :
    a.reading (b.run events).counters = UInt64.ofNat (a.total (b.receptions events)) := by
  have hempty : b.counters = {} := by rw [create_eq_ok hb]
  rw [run_booked (.create hb) events a, hempty, a.reading_zero, UInt64.zero_add]
  rfl

/-- In every run from a new bridge, modulo 2^64: each frame that came in was delivered, trapped or
dropped; the destination was looked up of just those that were delivered or dropped for want of a port
that takes them; what was sent is what the verdicts say; what was refused and what was dropped for each
reason has been counted. -/
theorem frames_accounted {config : BridgeConfig} {network : Network} {b : Bridge}
    (hb : Bridge.create config network = .ok b) (events : List Event) :
    let rs := b.receptions events
    let cs := (b.run events).counters
    let delivered := UInt64.ofNat (rs.countP (·.verdict.isDelivered))
    cs.rxFrames = delivered + cs.trapped + cs.dropped ∧
    cs.flooded + cs.unicastHits + cs.groupHits = delivered + cs.dropNoDestination + cs.dropTxFailed ∧
    cs.txFrames + cs.localDelivered = UInt64.ofNat (rs.map (·.verdict.ports)).sum ∧
    cs.txErrors = UInt64.ofNat ((rs.flatMap (·.sent)).countP (!·.accepted)) ∧
    ∀ reason : DropReason, cs.get reason.counter =
      UInt64.ofNat (rs.countP (·.verdict = .dropped reason)) := by
  intro rs cs delivered
  have hread : ∀ a : Account, a.reading cs = UInt64.ofNat (a.total rs) := reading_run hb events
  have hone : ∀ (a : Account) (c : Counter), a.counters = [c] →
      cs.get c = UInt64.ofNat (a.total rs) := by
    intro a c hc
    rw [← hread a, Account.get_eq_reading hc]
  have hports : ∀ r ∈ rs, r.verdict.ports = r.sent.countP (·.accepted) := by
    intro r hr
    obtain ⟨c, h, f, rfl⟩ := exists_of_mem_receptions hr
    exact ports_receive c h f
  have hdrop : ∀ reason : DropReason,
      cs.get reason.counter = UInt64.ofNat ((Account.dropped reason).total rs) :=
    fun reason => hone (.dropped reason) _ rfl
  refine ⟨?_, ?_, ?_, ?_, ?_⟩
  · calc cs.rxFrames = UInt64.ofNat (Account.received.total rs) := hone .received .rxFrames rfl
      _ = delivered + UInt64.ofNat (Account.trapped.total rs) + _ := by
        rw [Account.total_received, UInt64.ofNat_add, UInt64.ofNat_add]
      _ = delivered + cs.trapped + cs.dropped := by
        simp only [UInt64.ofNat_add, ← hdrop, ← hone .trapped .trapped rfl]
        rfl
  · calc cs.flooded + cs.unicastHits + cs.groupHits = Account.resolved.reading cs := by
          rw [UInt64.add_assoc, ← UInt64.add_zero cs.groupHits]
          rfl
      _ = delivered + (cs.get .dropNoDestination + cs.get .dropTxFailed) := by
        rw [hread, Account.total_resolved, UInt64.ofNat_add, UInt64.ofNat_add, ← hdrop, ← hdrop]
        rfl
      _ = delivered + cs.dropNoDestination + cs.dropTxFailed := (UInt64.add_assoc _ _ _).symm
  · calc cs.txFrames + cs.localDelivered = Account.sent.reading cs := by
          rw [← UInt64.add_zero cs.localDelivered]
          rfl
      _ = UInt64.ofNat (rs.map (·.verdict.ports)).sum := by
        rw [hread, Account.total_sent hports]
  · exact (hone .refused .txErrors rfl).trans (congrArg _ (Account.total_refused rs))
  · intro reason
    rw [hdrop, Account.total_dropped]

/-- Of four broadcast frames one reaches a device and the local stack, one comes in by no port, one is
trapped, and one reaches the local stack alone, since the device has lost its master by then. -/
theorem frames_accounted_four_ends :
    let start := beside ["eth0", "eth1"]
    let f := Frame.ethernet Mac.broadcast ⟨2, 0, 0, 0, 0, 9⟩ EtherType.ipv4 []
    let events : List Event := [.request (.portAdd "eth0" {}), .request (.portAdd "eth1" {}),
      .receive ⟨1, 1⟩ f, .receive ⟨7, 1⟩ f, .trap (some ⟨fun _ _ _ => true⟩), .receive ⟨1, 1⟩ f,
      .trap none, .network start.network, .receive ⟨1, 1⟩ f]
    let cs := (start.run events).counters
    Bridge.create {} start.network = .ok start ∧
      (start.receptions events).map (·.verdict) =
        [.delivered 2, .dropped .portInactive, .trapped, .delivered 1] ∧
      cs.rxFrames = 2 + cs.trapped + cs.dropped ∧
      cs.flooded + cs.unicastHits + cs.groupHits = 2 + cs.dropNoDestination + cs.dropTxFailed ∧
      cs.txFrames + cs.localDelivered = 3 ∧ cs.txErrors = 1 ∧
      cs.get DropReason.portInactive.counter = 1 := by
  intro start f events cs
  have hdelivered : (start.receptions events).countP (·.verdict.isDelivered) = 2 := by decide +kernel
  have hports : ((start.receptions events).map (·.verdict.ports)).sum = 3 := by decide +kernel
  have hrefused : ((start.receptions events).flatMap (·.sent)).countP (!·.accepted) = 1 := by
    decide +kernel
  have hinactive : (start.receptions events).countP (·.verdict = .dropped .portInactive) = 1 := by
    decide +kernel
  have hstart : Bridge.create {} start.network = .ok start := create_beside _
  have hcs : (start.run events).counters = cs := rfl
  obtain ⟨hrx, hresolved, hsent, herrors, hdrop⟩ := frames_accounted hstart events
  have htwo : UInt64.ofNat 2 = 2 := rfl
  have hthree : UInt64.ofNat 3 = 3 := rfl
  have hone : UInt64.ofNat 1 = 1 := rfl
  have hdropped := hdrop .portInactive
  rw [hcs, hdelivered, htwo] at hrx hresolved
  rw [hcs, hports, hthree] at hsent
  rw [hcs, hrefused, hone] at herrors
  rw [hcs, hinactive, hone] at hdropped
  exact ⟨hstart, by decide +kernel, hrx, hresolved, hsent, herrors, hdropped⟩

end Bridge

end VlanBridge
