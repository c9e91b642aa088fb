import VlanBridge.Scenario
import VlanBridge.Proofs.Placements
/-!
# Topologies are built as described

The requests of a topology come in rows, and each row leaves something that the next one builds on. After
the ports have been added, each is placed as new ones are in the slot that follows from its place in the
list; making the VLANs moves no port; and what concerns one port alone moves that port to where the
topology has it (`Settles`), and no other port. So none of the requests fails, and in the end the bridge
is as the topology says (`Realizes`).
-/

namespace VlanBridge

open VlanBridge.Net

namespace VlanPlan

variable {v : VlanPlan} {port : String}

/-- What a VLAN has a port be to it. -/
def standing (v : VlanPlan) (port : String) : Standing :=
  if port ∈ v.ports then .joined (port ∈ v.tagged) else .out

theorem member_standing : (v.standing port).member = true ↔ port ∈ v.ports := by
  unfold standing
  split <;> simp_all [Standing.joined, Standing.out]

theorem flooded_standing (c : FloodClass) : (v.standing port).flooded c = true ↔ port ∈ v.ports := by
  unfold standing
  split <;> simp_all [Standing.joined, Standing.out]

theorem tagged_standing : (v.standing port).tagged = true ↔ port ∈ v.tagged := by
  unfold standing
  split
  · simp only [Standing.joined, decide_eq_true_eq]
  · rename_i hlisted
    have hnot : port ∉ v.tagged := fun h => hlisted (List.mem_append_right _ h)
    simp only [Standing.out, Bool.false_eq_true, hnot]

theorem attachment?_eq (v : VlanPlan) (port : String) : v.attachment? port =
    if port ∈ v.ports then some (.vlanAttach v.vid port (port ∈ v.tagged)) else none := by
  unfold attachment? ports
  by_cases htagged : port ∈ v.tagged
  · simp only [htagged, List.mem_append, or_true, if_true, decide_true]
  · simp only [htagged, List.mem_append, or_false, if_false, decide_false]

end VlanPlan

namespace Topology

variable {t : Topology} {port : String}

theorem not_isExclusive_iff :
    ¬ t.isExclusive port = true ↔ ∀ v ∈ t.vlans, v.exclusive = true → port ∉ v.ports := by
  simp only [isExclusive, List.any_eq_true, Bool.and_eq_true, VlanPlan.attachment?_isSome, not_exists,
    not_and]

/-- In a topology without a fault the VLANs list ports that are there, and a port's own VLAN is there. -/
theorem fault?_eq_none_iff : t.fault? = none ↔
    (∀ v ∈ t.vlans, ∀ name ∈ v.ports, name ∈ t.ports) ∧
      ∀ p ∈ t.pvids, p.1 ∈ t.ports ∧ (p.2 = Vid.zero ∨ p.2 ∈ t.vlans.map (·.vid)) := by
  have hmember : ∀ v, t.memberFault? v = none ↔ ∀ name ∈ v.ports, name ∈ t.ports := by
    intro v
    simp only [memberFault?, Option.map_eq_none_iff, List.find?_eq_none, decide_eq_true_eq,
      Decidable.not_not]
  have hpvid : ∀ port vid, t.pvidFault? port vid = none ↔
      port ∈ t.ports ∧ (vid = Vid.zero ∨ vid ∈ t.vlans.map (·.vid)) := by
    intro port vid
    unfold pvidFault?
    by_cases hport : port ∈ t.ports
    · simp only [hport, not_true_eq_false, if_false, true_and, ite_eq_right_iff, reduceCtorEq,
        imp_false, ne_eq, not_and, Decidable.not_not]
      exact Decidable.or_iff_not_imp_left.symm
    · simp only [hport, not_false_eq_true, if_true, reduceCtorEq, false_and]
  simp only [fault?, Option.or_eq_none_iff, List.findSome?_eq_none_iff, hmember, hpvid]

theorem mem_of_pvid? {vid : Vid} (h : t.pvid? port = some vid) : (port, vid) ∈ t.pvids := by
  obtain ⟨before, after, hsplit, -⟩ := List.lookup_eq_some_iff.1 h
  rw [hsplit]
  exact List.mem_append_right _ List.mem_cons_self

/-- Where a topology has a port stand. -/
structure Settles (t : Topology) (port : String) (place : Vid → Standing) : Prop where
  planned : ∀ v ∈ t.vlans, place v.vid = v.standing port
  defaultVlan : place Vid.zero = if t.isExclusive port then .out else .joined false

end Topology

namespace Bridge

variable {b c : Bridge} {i : PortIndex} {name : String} {pvid : Vid} {place : Vid → Standing}

/-! ### Requests one after the other -/

theorem handleAll_cons {r : Request} {a : Response} (h : b.handle r = (c, .ok a))
    (rs : List Request) : b.handleAll (r :: rs) = c.handleAll rs := by
  simp only [handleAll, h]

/-- If all requests are done, the first is, and the others after it. -/
theorem handleAll_cons_eq_ok {r : Request} {rs : List Request}
    (h : b.handleAll (r :: rs) = (c, .ok ())) :
    ∃ d a, b.handle r = (d, .ok a) ∧ d.handleAll rs = (c, .ok ()) := by
  unfold handleAll at h
  split at h
  · exact ⟨_, _, ‹_›, h⟩
  · cases h

theorem handleAll_append {rs : List Request} (h : b.handleAll rs = (c, .ok ()))
    (ss : List Request) : b.handleAll (rs ++ ss) = c.handleAll ss := by
  induction rs generalizing b with
  | nil =>
    cases h
    rfl
  | cons r rs ih =>
    obtain ⟨d, a, hr, hrest⟩ := handleAll_cons_eq_ok h
    rw [List.cons_append, handleAll_cons hr, ih hrest]

theorem handleAll_append_eq_ok {rs ss : List Request} (h : b.handleAll (rs ++ ss) = (c, .ok ())) :
    ∃ d, b.handleAll rs = (d, .ok ()) ∧ d.handleAll ss = (c, .ok ()) := by
  induction rs generalizing b with
  | nil => exact ⟨b, rfl, h⟩
  | cons r rs ih =>
    obtain ⟨d, a, hr, hrest⟩ := handleAll_cons_eq_ok h
    obtain ⟨e, hall, hlast⟩ := ih hrest
    exact ⟨e, (handleAll_cons hr rs).trans hall, hlast⟩

theorem Reachable.handle (hb : b.Reachable) {r : Request} {a : Response}
    (h : b.handle r = (c, .ok a)) : c.Reachable := by
  have hnext : (b.handle r).1.Reachable := hb.next (.request r)
  rw [h] at hnext
  exact hnext

theorem Reachable.handleAll (hb : b.Reachable) {rs : List Request}
    (h : b.handleAll rs = (c, .ok ())) : c.Reachable := by
  induction rs generalizing b with
  | nil =>
    cases h
    exact hb
  | cons r rs ih =>
    obtain ⟨d, a, hr, hrest⟩ := handleAll_cons_eq_ok h
    exact ih (hb.handle hr) hrest

/-! ### The row of the ports -/

theorem Placed.holds (hp : b.Placed i name pvid place) : b.ports.Holds i := by
  obtain ⟨p, hp, -⟩ := hp.port
  exact PortTable.holds_iff.2 ⟨p, hp⟩

theorem Filled.portAddAll {k : Nat} (hfilled : b.Filled k) (hb : b.Reachable) {names : List String}
    (hroom : k + names.length ≤ maxPorts) (hdistinct : names.Nodup)
    (hnew : ∀ name ∈ names, ¬ b.HasPort name) (hoffers : ∀ name ∈ names, b.network.Offers name) :
    ∃ c, b.handleAll (names.map (.portAdd · {})) = (c, .ok ()) ∧ c.Filled (k + names.length) ∧
      (∀ vid, c.vlans.Has vid ↔ b.vlans.Has vid) ∧
      (∀ n name, names[n]? = some name → ∀ i : PortIndex, i.val = k + n →
        c.Placed i name Vid.zero .fresh) ∧
      ∀ i name pvid place, b.Placed i name pvid place → c.Placed i name pvid place := by
  induction names generalizing b k with
  | nil => exact ⟨b, rfl, hfilled, fun _ => Iff.rfl, nofun, fun _ _ _ _ h => h⟩
  | cons name names ih =>
    obtain ⟨hfirst, hrest⟩ := List.nodup_cons.1 hdistinct
    have hne : ∀ other ∈ names, other ≠ name := fun other hother h => hfirst (h ▸ hother)
    rw [List.length_cons] at hroom
    obtain ⟨d, r, hhandle, hgains⟩ := hfilled.portAdd hb (by omega) (hnew name List.mem_cons_self)
      (hoffers name List.mem_cons_self)
    obtain ⟨c, hall, hfilled', hvlans, hlisted, hkept⟩ := ih hgains.filled (hb.handle hhandle)
      (by omega) hrest
      (fun other h => mt (hgains.names other (hne other h)) (hnew other (List.mem_cons_of_mem _ h)))
      (fun other h => hgains.offers other (hne other h) (hoffers other (List.mem_cons_of_mem _ h)))
    refine ⟨c, ?_, ?_, fun vid => (hvlans vid).trans (hgains.vlans vid), ?_, ?_⟩
    · rw [List.map_cons, handleAll_cons hhandle, hall]
    · rw [List.length_cons, Nat.add_comm names.length, ← Nat.add_assoc]
      exact hfilled'
    · intro n other hn i hi
      cases n with
      | zero =>
        cases hn
        exact hkept _ _ _ _ (hgains.placed i hi)
      | succ n => exact hlisted n other hn i (by omega)
    · intro j other pvid place hp
      refine hkept _ _ _ _ (hp.spared (hgains.others j ?_))
      exact fun hj => hfilled.not_holds hb (Nat.le_of_eq hj.symm) hp.holds

/-! ### The row of the VLANs -/

theorem vlanAddAll (hzero : b.vlans.Has Vid.zero) {vids : List Vid} (hdistinct : vids.Nodup)
    (hnew : ∀ vid ∈ vids, ¬ b.vlans.Has vid) :
    ∃ c, b.handleAll (vids.map .vlanAdd) = (c, .ok ()) ∧ c.ports.busy = b.ports.busy ∧
      (∀ vid, c.vlans.Has vid ↔ vid ∈ vids ∨ b.vlans.Has vid) ∧
      ∀ i name pvid, b.Placed i name pvid .fresh → c.Placed i name pvid .fresh := by
  induction vids generalizing b with
  | nil => exact ⟨b, rfl, rfl, by simp, fun _ _ _ h => h⟩
  | cons vid vids ih =>
    obtain ⟨hfirst, hrest⟩ := List.nodup_cons.1 hdistinct
    obtain ⟨d, hhandle, hbusy, hhas, hplaced⟩ := vlanAdd_of_new hzero (hnew vid List.mem_cons_self)
    have hnew' : ∀ other ∈ vids, ¬ d.vlans.Has other := by
      intro other hother h
      rcases (hhas other).1 h with rfl | h
      · exact hfirst hother
      · exact hnew other (List.mem_cons_of_mem _ hother) h
    obtain ⟨c, hall, hbusy', hhas', hplaced'⟩ := ih ((hhas _).2 (Or.inr hzero)) hrest hnew'
    refine ⟨c, ?_, hbusy'.trans hbusy, ?_, fun i name pvid h => hplaced' _ _ _ (hplaced _ _ _ h)⟩
    · rw [List.map_cons, handleAll_cons hhandle, hall]
    · intro other
      rw [hhas', hhas, List.mem_cons, ← or_assoc, or_comm (a := other ∈ vids)]

/-! ### The rows of the single ports -/

/-- A port joins a VLAN if that lists it. -/
theorem Placed.join (hp : b.Placed i name pvid place) (hb : b.Reachable) {v : VlanPlan}
    (hhas : b.vlans.Has v.vid) (hout : place v.vid = .out) :
    ∃ c, b.handleAll (v.attachment? name).toList = (c, .ok ()) ∧ b.MovesOnly c i ∧
      c.Placed i name pvid (Function.update place v.vid (v.standing name)) := by
  unfold VlanPlan.standing
  rw [VlanPlan.attachment?_eq]
  split
  · obtain ⟨c, hhandle, hmoves, hplaced⟩ := hp.attach hb hhas hout (name ∈ v.tagged)
    exact ⟨c, handleAll_cons hhandle [], hmoves, hplaced⟩
  · refine ⟨b, rfl, .refl b i, ?_⟩
    rw [← hout, Function.update_eq_self]
    exact hp

theorem Placed.joinAll (hp : b.Placed i name pvid place) (hb : b.Reachable) {vs : List VlanPlan}
    (hdistinct : (vs.map (·.vid)).Nodup) (hhas : ∀ v ∈ vs, b.vlans.Has v.vid)
    (hout : ∀ v ∈ vs, place v.vid = .out) :
    ∃ c moved, b.handleAll (vs.filterMap (·.attachment? name)) = (c, .ok ()) ∧ b.MovesOnly c i ∧
      c.Placed i name pvid moved ∧ (∀ v ∈ vs, moved v.vid = v.standing name) ∧
      ∀ vid, (∀ v ∈ vs, v.vid ≠ vid) → moved vid = place vid := by
  induction vs generalizing b place with
  | nil => exact ⟨b, place, rfl, .refl b i, hp, nofun, fun _ _ => rfl⟩
  | cons v vs ih =>
    obtain ⟨hfirst, hrest⟩ := List.nodup_cons.1 hdistinct
    have hother : ∀ u ∈ vs, u.vid ≠ v.vid := fun u hu h => hfirst (List.mem_map.2 ⟨u, hu, h⟩)
    obtain ⟨d, hjoin, hmoves, hplaced⟩ := hp.join hb (hhas v List.mem_cons_self)
      (hout v List.mem_cons_self)
    have hout' : ∀ u ∈ vs, Function.update place v.vid (v.standing name) u.vid = .out := by
      intro u hu
      rw [Function.update_of_ne (hother u hu)]
      exact hout u (List.mem_cons_of_mem _ hu)
    obtain ⟨c, moved, hall, hmoves', hplaced', hplanned, hkept⟩ := ih hplaced (hb.handleAll hjoin)
      hrest (fun u hu => (hmoves.vlans u.vid).2 (hhas u (List.mem_cons_of_mem _ hu))) hout'
    refine ⟨c, moved, ?_, hmoves.trans hmoves', hplaced', ?_, ?_⟩
    · have hsplit : (v :: vs).filterMap (·.attachment? name) =
          (v.attachment? name).toList ++ vs.filterMap (·.attachment? name) := by
        rw [List.filterMap_cons]
        cases v.attachment? name <;> rfl
      rw [hsplit, handleAll_append hjoin, hall]
    · intro u hu
      rcases List.mem_cons.1 hu with rfl | hu
      · rw [hkept _ hother, Function.update_self]
      · exact hplanned u hu
    · intro vid hvid
      rw [hkept vid fun u hu => hvid u (List.mem_cons_of_mem _ hu),
        Function.update_of_ne (hvid v List.mem_cons_self).symm]

theorem Placed.leaveDefaultVlan (hp : b.Placed i name pvid place) (hb : b.Reachable)
    (hzero : b.vlans.Has Vid.zero) (hjoined : place Vid.zero = .joined false) (leaves : Bool) :
    ∃ c, b.handleAll (if leaves then [.vlanDetach Vid.zero name] else []) = (c, .ok ()) ∧
      b.MovesOnly c i ∧ c.Placed i name pvid
        (Function.update place Vid.zero (if leaves then .out else .joined false)) := by
  cases leaves with
  | true =>
    obtain ⟨c, hhandle, hmoves, hplaced⟩ := hp.detach hb hzero hjoined
    exact ⟨c, handleAll_cons hhandle [], hmoves, hplaced⟩
  | false =>
    refine ⟨b, rfl, .refl b i, ?_⟩
    rw [if_neg Bool.false_ne_true, ← hjoined, Function.update_eq_self]
    exact hp

theorem Placed.setOwnVlan (hp : b.Placed i name pvid place) (hb : b.Reachable) {own : Option Vid}
    (hhas : ∀ vid, own = some vid → b.vlans.Has vid) :
    ∃ c, b.handleAll (own.map (.portSetPvid name)).toList = (c, .ok ()) ∧ b.MovesOnly c i ∧
      c.Placed i name (own.getD pvid) place := by
  cases own with
  | none => exact ⟨b, rfl, .refl b i, hp⟩
  | some vid =>
    obtain ⟨c, hhandle, hmoves, hplaced⟩ := hp.setPvid hb (hhas vid rfl)
    exact ⟨c, handleAll_cons hhandle [], hmoves, hplaced⟩

/-- What concerns one port alone moves it from where new ports are to where the topology has it. -/
theorem Placed.settle {t : Topology} (hp : b.Placed i name Vid.zero .fresh) (hb : b.Reachable)
    (hdistinct : (t.vlans.map (·.vid)).Nodup) (hnonzero : ∀ v ∈ t.vlans, v.vid ≠ Vid.zero)
    (hzero : b.vlans.Has Vid.zero) (hhas : ∀ v ∈ t.vlans, b.vlans.Has v.vid)
    (hpvid : ∀ vid, t.pvid? name = some vid → b.vlans.Has vid) :
    ∃ c place, b.handleAll (t.portRequests name) = (c, .ok ()) ∧ b.MovesOnly c i ∧
      c.Placed i name ((t.pvid? name).getD Vid.zero) place ∧ t.Settles name place := by
  obtain ⟨b₁, place₁, hjoin, hmoves₁, hp₁, hplanned, hkept⟩ := hp.joinAll hb hdistinct hhas
    fun v hv => Function.update_of_ne (hnonzero v hv) _ _
  have hb₁ := hb.handleAll hjoin
  have hjoined : place₁ Vid.zero = .joined false :=
    (hkept _ hnonzero).trans (Function.update_self ..)
  obtain ⟨b₂, hleave, hmoves₂, hp₂⟩ :=
    hp₁.leaveDefaultVlan hb₁ ((hmoves₁.vlans _).2 hzero) hjoined (t.isExclusive name)
  have hmoves := hmoves₁.trans hmoves₂
  obtain ⟨c, hown, hmoves₃, hp₃⟩ := hp₂.setOwnVlan (hb₁.handleAll hleave)
    fun vid hvid => (hmoves.vlans vid).2 (hpvid vid hvid)
  refine ⟨c, _, ?_, hmoves.trans hmoves₃, hp₃, fun v hv => ?_, Function.update_self ..⟩
  · unfold Topology.portRequests
    rw [List.append_assoc, handleAll_append hjoin, handleAll_append hleave, hown]
  · rw [Function.update_of_ne (hnonzero v hv), hplanned v hv]

theorem Placed.slot_ne {j : PortIndex} {other : String} {vid : Vid} {place' : Vid → Standing}
    (hp : b.Placed i name pvid place) (hq : b.Placed j other vid place') (hne : other ≠ name) :
    j ≠ i := by
  rintro rfl
  obtain ⟨p, hp, hname, -⟩ := hp.port
  obtain ⟨q, hq, hother, -⟩ := hq.port
  cases hp.symm.trans hq
  exact hne (hother.symm.trans hname)

theorem settleAll {t : Topology} (hb : b.Reachable)
    (hdistinct : (t.vlans.map (·.vid)).Nodup) (hnonzero : ∀ v ∈ t.vlans, v.vid ≠ Vid.zero)
    (hzero : b.vlans.Has Vid.zero) (hhas : ∀ v ∈ t.vlans, b.vlans.Has v.vid)
    {names : List String} (hnames : names.Nodup)
    (hpvid : ∀ name ∈ names, ∀ vid, t.pvid? name = some vid → b.vlans.Has vid)
    (hplaced : ∀ name ∈ names, ∃ i, b.Placed i name Vid.zero .fresh) :
    ∃ c, b.handleAll (names.flatMap t.portRequests) = (c, .ok ()) ∧
      (∀ vid, c.vlans.Has vid ↔ b.vlans.Has vid) ∧ c.ports.busy = b.ports.busy ∧
      (∀ name ∈ names, ∀ i, b.Placed i name Vid.zero .fresh →
        ∃ place, c.Placed i name ((t.pvid? name).getD Vid.zero) place ∧ t.Settles name place) ∧
      ∀ i name pvid place, name ∉ names → b.Placed i name pvid place → c.Placed i name pvid place := by
  induction names generalizing b with
  | nil => exact ⟨b, rfl, fun _ => Iff.rfl, rfl, nofun, fun _ _ _ _ _ h => h⟩
  | cons name names ih =>
    obtain ⟨hfirst, hrest⟩ := List.nodup_cons.1 hnames
    obtain ⟨i, hp⟩ := hplaced name List.mem_cons_self
    obtain ⟨d, place, hsettle, hmoves, hp', hsettles⟩ :=
      hp.settle hb hdistinct hnonzero hzero hhas (hpvid name List.mem_cons_self)
    -- the other ports are where they were
    have hkept : ∀ {j other vid standing}, other ≠ name → b.Placed j other vid standing →
        d.Placed j other vid standing :=
      fun hne hq => hq.spared (hmoves.others _ (hp.slot_ne hq hne))
    have hne : ∀ other ∈ names, other ≠ name := fun other hother h => hfirst (h ▸ hother)
    obtain ⟨c, hall, hvlans, hbusy, hsettled, hspared⟩ := ih (hb.handleAll hsettle)
      ((hmoves.vlans _).2 hzero) (fun v hv => (hmoves.vlans _).2 (hhas v hv)) hrest
      (fun other h vid hvid =>
        (hmoves.vlans vid).2 (hpvid other (List.mem_cons_of_mem _ h) vid hvid))
      (fun other h => (hplaced other (List.mem_cons_of_mem _ h)).imp fun _ => hkept (hne other h))
    refine ⟨c, ?_, fun vid => (hvlans vid).trans (hmoves.vlans vid), hbusy.trans hmoves.busy, ?_, ?_⟩
    · rw [List.flatMap_cons, handleAll_append hsettle, hall]
    · intro other hother j hq
      rcases List.mem_cons.1 hother with rfl | hother
      · have hji : j = i := by
          have hindex := (hq.portIndex_eq hb).symm.trans (hp.portIndex_eq hb)
          exact Except.ok.inj hindex
        subst hji
        exact ⟨place, hspared _ _ _ _ hfirst hp', hsettles⟩
      · exact hsettled other hother j (hkept (hne other hother) hq)
    · intro j other vid standing hother hq
      exact hspared j other vid standing (List.not_mem_of_not_mem_cons hother)
        (hkept (List.ne_of_not_mem_cons hother) hq)

/-! ### The finished bridge -/

/-- A bridge is as a topology says: the ports are in the slots after the local port's, each VLAN has the
members that it lists and is flooded to them, VLAN 0 has the ports that are in no exclusive VLAN, and
each port has the VLAN of its own that it is given. -/
structure Realizes (c : Bridge) (t : Topology) : Prop where
  index : ∀ n name, t.ports[n]? = some name →
    ∃ i : PortIndex, c.portIndex name = .ok i ∧ i.val = n + 1
  vlans : ∀ vid, c.vlans.Has vid ↔ vid = Vid.zero ∨ vid ∈ t.vlans.map (·.vid)
  members : ∀ v ∈ t.vlans, ∀ w, c.vlans.vlan? v.vid = some w → ∀ i,
    i ∈ w.members ↔ ∃ name ∈ v.ports, c.portIndex name = .ok i
  tagged : ∀ v ∈ t.vlans, ∀ w, c.vlans.vlan? v.vid = some w → ∀ i,
    i ∈ w.tagged ↔ ∃ name ∈ v.tagged, c.portIndex name = .ok i
  defaultMembers : ∀ w, c.vlans.vlan? Vid.zero = some w → ∀ i, i ∈ w.members ↔ i = localPort ∨
    ∃ name ∈ t.ports, (∀ v ∈ t.vlans, v.exclusive = true → name ∉ v.ports) ∧
      c.portIndex name = .ok i
  defaultTagged : ∀ w, c.vlans.vlan? Vid.zero = some w → w.tagged = ∅
  flood : ∀ vid w, c.vlans.vlan? vid = some w → ∀ class', w.flood class' = w.members
  pvid : ∀ name ∈ t.ports, ∃ i p, c.portIndex name = .ok i ∧ c.ports.port? i = some p ∧
    p.pvid = (t.pvid? name).getD Vid.zero

/-- The local port stands as it was made and the listed ports where the topology has them, each in the
slot of its place in the list; there are no other ports. -/
structure Arranged (c : Bridge) (t : Topology) (bridgeName : String) : Prop where
  filled : c.Filled (1 + t.ports.length)
  localPlaced : c.Placed localPort bridgeName Vid.zero .fresh
  placed : ∀ n name, t.ports[n]? = some name → ∃ i : PortIndex, i.val = n + 1 ∧
    ∃ place, c.Placed i name ((t.pvid? name).getD Vid.zero) place ∧ t.Settles name place
  vlans : ∀ vid, c.vlans.Has vid ↔ vid = Vid.zero ∨ vid ∈ t.vlans.map (·.vid)

section Arranged

variable {t : Topology} {bridgeName : String}

theorem Arranged.placed_of_mem (ha : c.Arranged t bridgeName) {name : String} (hname : name ∈ t.ports) :
    ∃ i place, c.Placed i name ((t.pvid? name).getD Vid.zero) place ∧ t.Settles name place := by
  obtain ⟨n, hn⟩ := List.mem_iff_getElem?.1 hname
  obtain ⟨i, -, place, hp, hsettles⟩ := ha.placed n name hn
  exact ⟨i, place, hp, hsettles⟩

/-- Each slot is that of the local port, that of a listed port, or empty. -/
theorem Arranged.slot_cases (ha : c.Arranged t bridgeName) (hb : c.Reachable) (i : PortIndex) :
    i = localPort ∨ (∃ name ∈ t.ports, ∃ place, c.portIndex name = .ok i ∧
      c.Placed i name ((t.pvid? name).getD Vid.zero) place ∧ t.Settles name place) ∨
      ¬ c.ports.Holds i := by
  by_cases hlocal : i = localPort
  · exact Or.inl hlocal
  · by_cases hi : i.val < 1 + t.ports.length
    · have hpositive : i.val ≠ 0 := fun h => hlocal (Fin.ext h)
      have hn : i.val - 1 < t.ports.length := by omega
      obtain ⟨j, hj, place, hp, hsettles⟩ := ha.placed _ _ (List.getElem?_eq_getElem hn)
      have hji : j = i := Fin.ext (by omega)
      subst hji
      exact Or.inr (Or.inl ⟨_, List.getElem_mem hn, place, hp.portIndex_eq hb, hp, hsettles⟩)
    · exact Or.inr (Or.inr (ha.filled.not_holds hb (Nat.not_lt.1 hi)))

/-- A set of ports that is read off their standing in a VLAN: the local port is in it if it is as a new
port's, and a listed port if it is where the topology has the port. -/
theorem Arranged.mem_iff (ha : c.Arranged t bridgeName) (hb : c.Reachable) {vid : Vid} {w : Vlan}
    (hw : c.vlans.vlan? vid = some w) {s : PortSet} {f : Standing → Bool}
    (hs : ∀ i, i ∈ s ↔ f (w.standing i) = true) (hout : f .out = false) {Q : String → Prop}
    (hQ : ∀ name place, t.Settles name place → (f (place vid) = true ↔ Q name)) (i : PortIndex) :
    i ∈ s ↔ i = localPort ∧ f (.fresh vid) = true ∨
      ∃ name ∈ t.ports, Q name ∧ c.portIndex name = .ok i := by
  have hlocal := ha.localPlaced.standing vid w hw
  rw [hs]
  constructor
  · intro h
    rcases ha.slot_cases hb i with rfl | ⟨name, hname, place, hindex, hp, hsettles⟩ | hempty
    · exact Or.inl ⟨rfl, hlocal ▸ h⟩
    · rw [hp.standing vid w hw] at h
      exact Or.inr ⟨name, hname, (hQ name place hsettles).1 h, hindex⟩
    · -- an empty slot is in no set
      rw [standing_of_not_holds hb.sound_integrity.2 hempty hw, hout] at h
      cases h
  · rintro (⟨rfl, h⟩ | ⟨name, hname, h, hindex⟩)
    · rw [hlocal]
      exact h
    · obtain ⟨j, place, hp, hsettles⟩ := ha.placed_of_mem hname
      cases (hp.portIndex_eq hb).symm.trans hindex
      rw [hp.standing vid w hw]
      exact (hQ name place hsettles).2 h

theorem Arranged.mem_planned_iff (ha : c.Arranged t bridgeName) (hb : c.Reachable) {v : VlanPlan}
    (hv : v ∈ t.vlans) (hnonzero : v.vid ≠ Vid.zero) {w : Vlan} (hw : c.vlans.vlan? v.vid = some w)
    {s : PortSet} {f : Standing → Bool} (hs : ∀ i, i ∈ s ↔ f (w.standing i) = true)
    (hout : f .out = false) {names : List String}
    (hnames : ∀ name, f (v.standing name) = true ↔ name ∈ names)
    (hlisted : ∀ name ∈ names, name ∈ t.ports) (i : PortIndex) :
    i ∈ s ↔ ∃ name ∈ names, c.portIndex name = .ok i := by
  have hQ : ∀ name place, t.Settles name place → (f (place v.vid) = true ↔ name ∈ names) := by
    intro name place hsettles
    rw [hsettles.planned v hv]
    exact hnames name
  have hfresh : Standing.fresh v.vid = .out := Function.update_of_ne hnonzero _ _
  rw [ha.mem_iff hb hw hs hout hQ, hfresh, hout]
  constructor
  · rintro (⟨-, h⟩ | ⟨name, -, hname, hindex⟩)
    · cases h
    · exact ⟨name, hname, hindex⟩
  · rintro ⟨name, hname, hindex⟩
    exact Or.inr ⟨name, hlisted name hname, hname, hindex⟩

theorem Arranged.mem_default_iff (ha : c.Arranged t bridgeName) (hb : c.Reachable) {w : Vlan}
    (hw : c.vlans.vlan? Vid.zero = some w) {s : PortSet} {f : Standing → Bool}
    (hs : ∀ i, i ∈ s ↔ f (w.standing i) = true) (hout : f .out = false)
    (hjoined : f (.joined false) = true) (i : PortIndex) :
    i ∈ s ↔ i = localPort ∨ ∃ name ∈ t.ports,
      (∀ v ∈ t.vlans, v.exclusive = true → name ∉ v.ports) ∧ c.portIndex name = .ok i := by
  have hQ : ∀ name place, t.Settles name place → (f (place Vid.zero) = true ↔
      ∀ v ∈ t.vlans, v.exclusive = true → name ∉ v.ports) := by
    intro name place hsettles
    rw [hsettles.defaultVlan, ← Topology.not_isExclusive_iff]
    split
    · rename_i hexclusive
      simp only [hout, hexclusive, not_true_eq_false, Bool.false_eq_true]
    · rename_i hshared
      exact iff_of_true hjoined hshared
  have hfresh : Standing.fresh Vid.zero = .joined false := Function.update_self ..
  rw [ha.mem_iff hb hw hs hout hQ, hfresh, hjoined, and_iff_left rfl]

theorem Arranged.realizes (ha : c.Arranged t bridgeName) (hb : c.Reachable)
    (hnonzero : ∀ v ∈ t.vlans, v.vid ≠ Vid.zero)
    (hports : ∀ v ∈ t.vlans, ∀ name ∈ v.ports, name ∈ t.ports) : c.Realizes t := by
  have hmembers : ∀ (w : Vlan) i, i ∈ w.members ↔ (w.standing i).member = true := by
    simp only [Vlan.standing, decide_eq_true_eq, implies_true]
  have htagged : ∀ (w : Vlan) i, i ∈ w.tagged ↔ (w.standing i).tagged = true := by
    simp only [Vlan.standing, decide_eq_true_eq, implies_true]
  have hflood : ∀ class' (w : Vlan) i, i ∈ w.flood class' ↔ (w.standing i).flooded class' = true := by
    simp only [Vlan.standing, decide_eq_true_eq, implies_true]
  have hplanned : ∀ v ∈ t.vlans, ∀ w, c.vlans.vlan? v.vid = some w → ∀ i,
      i ∈ w.members ↔ ∃ name ∈ v.ports, c.portIndex name = .ok i := fun v hv w hw =>
    ha.mem_planned_iff hb hv (hnonzero v hv) hw (hmembers w) rfl (fun _ => VlanPlan.member_standing)
      (hports v hv)
  refine ⟨?_, ha.vlans, hplanned, ?_, ?_, ?_, ?_, ?_⟩
  · intro n name hn
    obtain ⟨i, hi, place, hp, -⟩ := ha.placed n name hn
    exact ⟨i, hp.portIndex_eq hb, hi⟩
  · intro v hv w hw
    exact ha.mem_planned_iff hb hv (hnonzero v hv) hw (htagged w) rfl
      (fun _ => VlanPlan.tagged_standing)
      fun name hname => hports v hv name (List.mem_append_right _ hname)
  · intro w hw
    exact ha.mem_default_iff hb hw (hmembers w) rfl rfl
  · intro w hw
    have huntagged : ∀ name place, t.Settles name place →
        ((place Vid.zero).tagged = true ↔ False) := by
      intro name place hsettles
      rw [hsettles.defaultVlan]
      split <;> simp [Standing.out, Standing.joined]
    refine PortSet.isEmpty_iff.1 (PortSet.isEmpty_iff_forall.2 fun i hi => ?_)
    rcases (ha.mem_iff hb hw (htagged w) rfl huntagged i).1 hi with ⟨-, h⟩ | ⟨-, -, h, -⟩
    · cases h
    · exact h
  · intro vid w hw class'
    ext i
    rcases (ha.vlans vid).1 (VlanDb.exists_vlan?_iff.1 ⟨w, hw⟩) with rfl | hvid
    · rw [ha.mem_default_iff hb hw (f := (·.flooded class')) (hflood class' w) rfl rfl,
        ha.mem_default_iff hb hw (hmembers w) rfl rfl]
    · obtain ⟨v, hv, rfl⟩ := List.mem_map.1 hvid
      rw [ha.mem_planned_iff hb hv (hnonzero v hv) hw (f := (·.flooded class')) (hflood class' w) rfl
        (fun _ => VlanPlan.flooded_standing class') (hports v hv), hplanned v hv w hw]
  · intro name hname
    obtain ⟨i, place, hp, -⟩ := ha.placed_of_mem hname
    obtain ⟨p, hport, -, hpvid⟩ := hp.port
    exact ⟨i, p, hp.portIndex_eq hb, hport, hpvid⟩

end Arranged

theorem not_hasPort_of_create {config : BridgeConfig} {network : Network}
    (h : Bridge.create config network = .ok b) (hname : name ≠ config.name) : ¬ b.HasPort name := by
  rintro ⟨i, p, hp, rfl⟩
  rw [create_eq_ok h] at hp
  change (PortTable.ofName config.name).port? i = some p at hp
  rw [PortTable.port?_ofName] at hp
  split at hp
  · cases hp
    exact hname rfl
  · cases hp

/-- All requests of a topology without a fault are done on a new bridge. -/
theorem arranged_of_create {t : Topology} {config : BridgeConfig} {network : Network}
    (hb : Bridge.create config network = .ok b) (hfault : t.fault? = none)
    (hfew : t.ports.length ≤ 255) (hdistinct : t.ports.Nodup) (hbridge : config.name ∉ t.ports)
    (hvids : (t.vlans.map (·.vid)).Nodup) (hnonzero : ∀ v ∈ t.vlans, v.vid ≠ Vid.zero)
    (hoffers : ∀ name ∈ t.ports, network.Offers name) :
    ∃ c, b.handleAll t.requests = (c, .ok ()) ∧ c.Arranged t config.name := by
  have hreachable : b.Reachable := .create hb
  have hnetwork : b.network = network := by rw [create_eq_ok hb]
  have hroom : 1 + t.ports.length ≤ maxPorts := by
    show 1 + t.ports.length ≤ 256
    omega
  obtain ⟨hfilled, hlocal, hhas⟩ := placed_of_create hb
  obtain ⟨b₁, hall₁, hfilled₁, hhas₁, hplaced₁, hkept₁⟩ := hfilled.portAddAll hreachable hroom
    hdistinct (fun name hname => not_hasPort_of_create hb fun h => hbridge (h ▸ hname))
    (hnetwork ▸ hoffers)
  have hb₁ := hreachable.handleAll hall₁
  have honly : ∀ vid, b₁.vlans.Has vid ↔ vid = Vid.zero := fun vid => (hhas₁ vid).trans (hhas vid)
  have hnew : ∀ vid ∈ t.vlans.map (·.vid), ¬ b₁.vlans.Has vid := by
    intro vid hvid h
    obtain ⟨v, hv, rfl⟩ := List.mem_map.1 hvid
    exact hnonzero v hv ((honly _).1 h)
  obtain ⟨b₂, hall₂, hbusy₂, hhas₂, hplaced₂⟩ := vlanAddAll ((honly _).2 rfl) hvids hnew
  have hb₂ := hb₁.handleAll hall₂
  have hvlans : ∀ vid, b₂.vlans.Has vid ↔ vid = Vid.zero ∨ vid ∈ t.vlans.map (·.vid) := by
    intro vid
    rw [hhas₂, honly, or_comm]
  have hfresh : ∀ n name, t.ports[n]? = some name →
      ∃ i : PortIndex, i.val = n + 1 ∧ b₂.Placed i name Vid.zero .fresh := by
    intro n name hn
    obtain ⟨hlt, -⟩ := List.getElem?_eq_some_iff.1 hn
    exact ⟨⟨n + 1, by omega⟩, rfl, hplaced₂ _ _ _ (hplaced₁ n name hn _ (Nat.add_comm n 1))⟩
  obtain ⟨c, hall₃, hhas₃, hbusy₃, hsettled, hkept₃⟩ := settleAll hb₂ hvids hnonzero
    ((hvlans _).2 (Or.inl rfl)) (fun v hv => (hvlans _).2 (Or.inr (List.mem_map_of_mem hv))) hdistinct
    (fun name _ vid hvid =>
      (hvlans vid).2 ((Topology.fault?_eq_none_iff.1 hfault).2 _ (Topology.mem_of_pvid? hvid)).2)
    (fun name hname => by
      obtain ⟨n, hn⟩ := List.mem_iff_getElem?.1 hname
      exact (hfresh n name hn).imp fun _ => And.right)
  refine ⟨c, ?_, ?_, ?_, ?_, fun vid => (hhas₃ vid).trans (hvlans vid)⟩
  · unfold Topology.requests
    rw [List.append_assoc, handleAll_append hall₁]
    rw [List.map_map] at hall₂
    exact (handleAll_append hall₂ _).trans hall₃
  · intro j
    rw [hbusy₃, hbusy₂]
    exact hfilled₁ j
  · exact hkept₃ _ _ _ _ hbridge (hplaced₂ _ _ _ (hkept₁ _ _ _ _ hlocal))
  · intro n name hn
    obtain ⟨i, hi, hp⟩ := hfresh n name hn
    exact ⟨i, hi, hsettled name (List.mem_iff_getElem?.2 ⟨n, hn⟩) i hp⟩

end Bridge

/-- Beside devices that may become its ports, a new bridge does everything that the topology of a valid
scenario asks for, and then it is as the topology says. -/
theorem Scenario.requests_realize_topology {s : Scenario} {network : Network}
    (hvalid : s.validate = .ok ()) (hfew : s.topology.ports.length ≤ 255)
    (hdistinct : s.topology.ports.Nodup) (hbridge : s.bridge.name ∉ s.topology.ports)
    (hvids : (s.topology.vlans.map (·.vid)).Nodup)
    (hzero : Vid.zero ∉ s.topology.vlans.map (·.vid))
    (hoffers : ∀ name ∈ s.topology.ports, network.Offers name) :
    ∃ b c, Bridge.create s.bridge network = .ok b ∧
      b.handleAll s.topology.requests = (c, .ok ()) ∧ c.Realizes s.topology := by
  obtain ⟨hconfig, hfault, -⟩ := Scenario.validate_eq_ok_iff.1 hvalid
  have hnonzero : ∀ v ∈ s.topology.vlans, v.vid ≠ Vid.zero :=
    fun v hv h => hzero (List.mem_map.2 ⟨v, hv, h⟩)
  obtain ⟨b, hb⟩ := Bridge.exists_create hconfig network
  obtain ⟨c, hall, harranged⟩ :=
    Bridge.arranged_of_create hb hfault hfew hdistinct hbridge hvids hnonzero hoffers
  have hc : c.Reachable := (Bridge.Reachable.create hb).handleAll hall
  exact ⟨b, c, hb, hall, harranged.realizes hc hnonzero (Topology.fault?_eq_none_iff.1 hfault).1⟩

/-- Of two ports the first is in an exclusive VLAN, where its own frames go, and in both lists of another
VLAN; the second sends into that one with a tag and stays in VLAN 0. -/
theorem Scenario.requests_realize_topology_two_ports :
    let ten : VlanPlan := { vid := ⟨10, by decide⟩, untagged := ["eth0"], exclusive := true }
    let twenty : VlanPlan := {
      vid := ⟨20, by decide⟩, untagged := ["eth0"], tagged := ["eth0", "eth1"] }
    let t : Topology := {
      ports := ["eth0", "eth1"], vlans := [ten, twenty], pvids := [("eth0", ten.vid)] }
    let network := (Bridge.beside ["eth0", "eth1"]).network
    ({ topology := t } : Scenario).validate = .ok () ∧ (∀ name ∈ t.ports, network.Offers name) ∧
      ∃ b c, Bridge.create {} network = .ok b ∧ b.handleAll t.requests = (c, .ok ()) ∧
        c.Realizes t ∧ ∃ w, c.vlans.vlan? Vid.zero = some w ∧ 1 ∉ w.members ∧ 2 ∈ w.members := by
  intro ten twenty t network
  have hvalid : ({ topology := t } : Scenario).validate = .ok () := by decide +kernel
  have hoffers : ∀ name ∈ t.ports, network.Offers name := by
    intro name hname
    rcases List.mem_cons.1 hname with rfl | hname
    · exact ⟨0, _, by decide +kernel, rfl, ⟨rfl, rfl, by decide +kernel, rfl, rfl, rfl⟩⟩
    · cases List.mem_singleton.1 hname
      exact ⟨1, _, by decide +kernel, rfl, ⟨rfl, rfl, by decide +kernel, rfl, rfl, rfl⟩⟩
  obtain ⟨b, c, hb, hall, hc⟩ := requests_realize_topology hvalid (by decide) (by decide +kernel)
    (by decide +kernel) (by decide +kernel) (by decide +kernel) hoffers
  refine ⟨hvalid, hoffers, b, c, hb, hall, hc, ?_⟩
  obtain ⟨w, hw⟩ := VlanDb.exists_vlan?_iff.2 ((hc.vlans Vid.zero).2 (Or.inl rfl))
  obtain ⟨i, hi, hslot⟩ := hc.index 1 "eth1" rfl
  have hslot : i = 2 := Fin.ext hslot
  subst hslot
  refine ⟨w, hw, fun h => ?_, ?_⟩
  · rcases (hc.defaultMembers w hw 1).1 h with hlocal | ⟨name, hname, hshared, hindex⟩
    · cases hlocal
    · rcases List.mem_cons.1 hname with rfl | hname
      · exact hshared ten List.mem_cons_self rfl List.mem_cons_self
      · cases List.mem_singleton.1 hname
        cases hi.symm.trans hindex
  · exact (hc.defaultMembers w hw 2).2 (Or.inr ⟨"eth1", by decide +kernel, by decide +kernel, hi⟩)

end VlanBridge
