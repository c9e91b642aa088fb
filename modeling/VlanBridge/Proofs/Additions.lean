import VlanBridge.Proofs.FramesInFlight
import VlanBridge.Proofs.VlanHistories
/-!
# What comes only by being added

A slot that is empty stays empty until a port is added, and a VLAN that is not there stays away until it
is made, whatever else happens in between and whichever frames are in flight. So of what an operation
leaves that is none of the two, each port was in its slot before, but for its settings, and each VLAN was
there (`Inherits`). It also follows that every port but the local one is that of a device.
-/

namespace VlanBridge

open VlanBridge.Net

/-! ### What adds ports and VLANs -/

def Operation.AddsPort : Operation → Prop
  | .portAdd .. => True
  | _ => False

def Operation.AddsVlan (v : Vid) : Operation → Prop
  | .vlanAdd vid => vid = v
  | _ => False

def Request.AddsPort : Request → Prop
  | .portAdd .. => True
  | _ => False

def Request.AddsVlan (v : Vid) : Request → Prop
  | .vlanAdd vid => vid = v
  | _ => False

def Event.AddsPort : Event → Prop
  | .perform op _ => op.AddsPort
  | .request r => r.AddsPort
  | _ => False

def Event.AddsVlan (v : Vid) : Event → Prop
  | .perform op _ => op.AddsVlan v
  | .request r => r.AddsVlan v
  | _ => False

def Transit.Step.AddsPort : Transit.Step → Prop
  | .event e => e.AddsPort
  | .pin | .drop _ => False

def Transit.Step.AddsVlan (v : Vid) : Transit.Step → Prop
  | .event e => e.AddsVlan v
  | .pin | .drop _ => False

namespace Bridge

variable {b c d : Bridge} {v : Vid}

/-- The operation of a request adds what the request says. -/
theorem adds_of_operation? {r : Request} {op : Operation} (h : b.operation? r = some op) :
    (op.AddsPort → r.AddsPort) ∧ (op.AddsVlan v → r.AddsVlan v) := by
  cases r with
  | portAdd =>
    obtain ⟨device, -, rfl⟩ := Option.map_eq_some_iff.1 h
    exact ⟨id, id⟩
  | portDel | portSetPvid | portSetIngress | vlanAttach | vlanDetach | vlanSetFlood
    | vlanSetRouter =>
    simp only [operation?] at h
    obtain ⟨n, rfl⟩ := named_eq_some h
    exact ⟨id, id⟩
  | fdbFlush port =>
    cases port with
    | none =>
      cases h
      exact ⟨id, id⟩
    | some name =>
      simp only [operation?] at h
      obtain ⟨n, rfl⟩ := named_eq_some h
      exact ⟨id, id⟩
  | fdbAdd key ports origin =>
    simp only [operation?] at h
    split at h
    · cases h
      exact ⟨id, id⟩
    · cases h
  | vlanAdd | vlanDel | vlanSetLearning | fdbDel =>
    cases h
    exact ⟨id, id⟩
  | portList | vlanList | fdbDump | counters => cases h

/-! ### What was there before -/

/-- Every port was in its slot, its settings apart, and every VLAN was there. -/
structure Inherits (b c : Bridge) : Prop where
  ports : ∀ i p, c.ports.port? i = some p → ∃ q, b.ports.port? i = some q ∧ q.fixed = p.fixed
  vlans : ∀ v, c.vlans.Has v → b.vlans.Has v

theorem Inherits.trans (h : Inherits b c) (k : Inherits c d) : Inherits b d := by
  refine ⟨fun i p hp => ?_, fun v hv => h.vlans v (k.vlans v hv)⟩
  obtain ⟨q, hq, hqp⟩ := k.ports i p hp
  obtain ⟨r, hr, hrq⟩ := h.ports i q hq
  exact ⟨r, hr, hrq.trans hqp⟩

theorem Inherits.of_eq (hports : ∀ i, c.ports.port? i = b.ports.port? i)
    (hvlans : c.vlans.published = b.vlans.published) : Inherits b c := by
  refine ⟨fun i p hp => ⟨p, (hports i).symm.trans hp, rfl⟩, fun v hv => ?_⟩
  rwa [VlanDb.has_iff, hvlans, ← VlanDb.has_iff] at hv

theorem Inherits.refl (b : Bridge) : Inherits b b := .of_eq (fun _ => rfl) rfl

theorem inherits_reclaim (b : Bridge) : Inherits b b.reclaim.1 :=
  .of_eq b.reclaim_tables.1 b.reclaim_tables.2.1

theorem Inherits.retire (h : Inherits b c) (r : Release) : Inherits b (c.retire r) :=
  h.trans (.of_eq (housekeeping_retire c r).port? (housekeeping_retire c r).published)

theorem Inherits.settle (b : Bridge) (s : Learning) : Inherits b (b.settle s) := by
  have hlearning : Inherits b (b.withLearning s) := .of_eq (fun _ => rfl) rfl
  exact hlearning.trans (inherits_reclaim _)

theorem inherits_modify (b : Bridge) (i : PortIndex) {f : Port → Port}
    (hf : ∀ p, (f p).fixed = p.fixed) : Inherits b { b with ports := b.ports.modify i f } := by
  refine ⟨fun j p hp => ?_, fun _ => id⟩
  rw [PortTable.port?_modify] at hp
  split at hp
  · obtain ⟨q, hq, rfl⟩ := Option.map_eq_some_iff.1 hp
    exact ⟨q, hq, (hf q).symm⟩
  · exact ⟨p, hp, rfl⟩

theorem inherits_portSetPvid (b : Bridge) (n : Nat) (vid : Vid) :
    Inherits b (b.portSetPvid n vid).1 := by
  unfold portSetPvid
  split
  · exact .refl b
  · exact .refl b
  · exact inherits_modify b _ fun _ => rfl

theorem inherits_portSetIngress (b : Bridge) (n : Nat) (ingress : IngressDefaults) :
    Inherits b (b.portSetIngress n ingress).1 := by
  unfold portSetIngress
  split
  · exact .refl b
  · exact inherits_modify b _ fun _ => rfl

theorem inherits_portDel (b : Bridge) (n : Nat) : Inherits b (b.portDel n).1 := by
  cases hremove : b.ports.remove n with
  | error e =>
    unfold portDel
    rw [hremove]
    exact .refl b
  | ok out =>
    obtain ⟨ports, p⟩ := out
    obtain ⟨hports, hpublished, -⟩ := portDel_tables hremove
    obtain ⟨i, -, -, -, rfl⟩ := PortTable.remove_eq_ok hremove
    refine ⟨fun j q hq => ?_, fun v hv => ?_⟩
    · rw [hports, PortTable.port?_clear] at hq
      split at hq
      · cases hq
      · exact ⟨q, hq, rfl⟩
    · rw [VlanDb.has_iff, hpublished, ← VlanDb.has_iff, VlanDb.has_detachAll] at hv
      exact hv

theorem inherits_withVlans (b : Bridge) (vid : Vid) {f : Vlan → Vlan} (hf : ∀ v, (f v).vid = v.vid) :
    Inherits b (b.withVlans (b.vlans.modifyExisting vid f)).1 := by
  unfold withVlans
  split
  · rename_i vlans hmodify
    obtain ⟨-, rfl⟩ := VlanDb.modifyExisting_eq_ok hmodify
    exact ⟨fun i p hp => ⟨p, hp, rfl⟩, fun v => (VlanDb.has_modify hf).1⟩
  · exact .refl b

theorem inherits_withPort (b : Bridge) (vid : Vid) (n : Nat) {f : PortIndex → Vlan → Vlan}
    (hf : ∀ i v, (f i v).vid = v.vid) :
    Inherits b (b.withPort n fun i => b.vlans.modifyExisting vid (f i)).1 := by
  unfold withPort
  split
  · exact .refl b
  · exact inherits_withVlans b vid (hf _)

theorem inherits_vlanDetach (b : Bridge) (vid : Vid) (n : Nat) :
    Inherits b (b.vlanDetach vid n).1 := by
  unfold vlanDetach
  split
  · exact .refl b
  · refine ⟨fun i p hp => ⟨p, hp, rfl⟩, fun v hv => ?_⟩
    simp only [VlanDb.detach] at hv
    split at hv
    · exact hv
    · exact (VlanDb.has_modify (f := (·.detach _)) fun _ => rfl).1 hv

theorem inherits_vlanDel (b : Bridge) (vid : Vid) : Inherits b (b.vlanDel vid).1 := by
  unfold vlanDel
  split
  · exact .refl b
  · rename_i vlans gone hdelete
    obtain ⟨-, r, -, -, rfl⟩ := VlanDb.delete_eq_ok hdelete
    refine Inherits.retire ⟨fun i p hp => ?_, fun v hv => (VlanDb.has_filter.1 hv).1⟩ _
    rw [PortTable.port?_mapPorts] at hp
    obtain ⟨q, hq, rfl⟩ := Option.map_eq_some_iff.1 hp
    refine ⟨q, hq, ?_⟩
    split <;> rfl

theorem inherits_fdbFlush (b : Bridge) (f : FlushFilter) : Inherits b (b.fdbFlush f).1 := by
  unfold fdbFlush
  split
  · exact .refl b
  · exact .settle b _

theorem inherits_fdbAdd (b : Bridge) (key : Key) (ports : PortSet) (origin : Origin) :
    Inherits b (b.fdbAdd key ports origin).1 := by
  unfold fdbAdd
  split
  · exact .refl b
  · exact .refl b
  · split
    · exact .refl b
    · exact .settle b _

theorem inherits_fdbDel (b : Bridge) (key : Key) : Inherits b (b.fdbDel key).1 := by
  unfold fdbDel
  split
  · exact .refl b
  · exact .settle b _

theorem inherits_startAgeing (b : Bridge) (timer : Option Timer) :
    Inherits b (b.startAgeing timer).1 := by
  unfold startAgeing
  split
  · exact .refl b
  · split
    · exact .refl b
    · exact .of_eq (fun _ => rfl) rfl

theorem inherits_wake (b : Bridge) (due : Nat) : Inherits b (b.wake due) := by
  have hsweep : Inherits b (b.swept due) := .of_eq (fun _ => rfl) rfl
  exact hsweep.trans (inherits_reclaim _)

theorem inherits_wakes (n : Nat) (b : Bridge) : Inherits b (wakes n b) := by
  induction n generalizing b with
  | zero => exact .refl b
  | succ n ih =>
    unfold wakes
    split
    · rename_i alarm _
      exact (inherits_wake b alarm.due).trans (ih _)
    · exact .refl b

theorem inherits_sleep (b : Bridge) (ms : Nat) : Inherits b (b.sleep ms) := by
  -- for every number of wakes, so that none of them is computed when the goal is compared
  have hany : ∀ n finish, Inherits b { wakes n b with clock := finish } := by
    intro n finish
    have hclock : Inherits (wakes n b) { wakes n b with clock := finish } :=
      .of_eq (fun _ => rfl) rfl
    exact (inherits_wakes n b).trans hclock
  unfold sleep
  exact hany _ _

theorem inherits_shutdown (b : Bridge) : Inherits b b.shutdown := by
  have hstop : Inherits b { b with nextSweep := none } := .of_eq (fun _ => rfl) rfl
  have hports : ∀ (is : List PortIndex) (c : Bridge),
      Inherits c (is.foldl (fun c i => (c.portDel i.val).1) c) := by
    intro is
    induction is with
    | nil => exact fun c => .refl c
    | cons i is ih => exact fun c => (inherits_portDel c i.val).trans (ih _)
  exact (hstop.trans (hports _ _)).trans (inherits_reclaim _)

theorem inherits_perform (b : Bridge) {op : Operation} (hop : op.IsControl) (hport : ¬ op.AddsPort)
    (hvlan : ∀ v, ¬ op.AddsVlan v) : Inherits b (b.perform op).1 := by
  cases op with
  | portAdd => exact absurd trivial hport
  | vlanAdd vid => exact absurd rfl (hvlan vid)
  | portDel port => exact inherits_portDel b port
  | portSetPvid port vid => exact inherits_portSetPvid b port vid
  | portSetIngress port ingress => exact inherits_portSetIngress b port ingress
  | vlanDel vid => exact inherits_vlanDel b vid
  | vlanAttach vid port tagged => exact inherits_withPort b vid port fun _ v => v.vid_attach _ tagged
  | vlanDetach vid port => exact inherits_vlanDetach b vid port
  | vlanSetLearning vid enabled => exact inherits_withVlans b vid fun _ => rfl
  | vlanSetFlood vid c port enabled =>
    exact inherits_withPort b vid port fun _ v => v.vid_setFlood c _ enabled
  | vlanSetRouter vid port enabled => exact inherits_withPort b vid port fun _ _ => rfl
  | fdbFlush filter => exact inherits_fdbFlush b filter
  | fdbAdd key ports origin => exact inherits_fdbAdd b key ports origin
  | fdbDel key => exact inherits_fdbDel b key
  | learn => exact hop.elim
  | reclaim => exact inherits_reclaim b
  | quiesce => exact inherits_reclaim b
  | startAgeing timer => exact inherits_startAgeing b timer
  | sleep ms => exact inherits_sleep b ms
  | shutdown => exact inherits_shutdown b

/-! ### The two that add -/

/-- Whether or not a device becomes a port, each port was in its slot before or is that of the device, which
then was found eligible and took its master. -/
theorem port?_portAdd {id : DeviceId} {ingress : IngressDefaults} {i : PortIndex} {p : Port}
    (hp : (b.portAdd id ingress).1.ports.port? i = some p) :
    (∃ q, b.ports.port? i = some q ∧ q.fixed = p.fixed) ∨ ∃ d e ports, b.network.device? id = some d ∧
      b.ports.add d id ingress b.config.name = .ok (ports, p) ∧ d.enslave b.config.name = .ok e := by
  unfold portAdd at hp
  split at hp
  · exact Or.inl ⟨p, hp, rfl⟩
  · rename_i d hd
    split at hp
    · exact Or.inl ⟨p, hp, rfl⟩
    · rename_i ports q hadd
      obtain ⟨j, -, he⟩ := PortTable.add_eq_ok hadd
      have hslot : ports.port? i = if j = i then some q else b.ports.port? i := by
        obtain ⟨rfl, rfl⟩ := Prod.mk.inj he
        exact b.ports.port?_install j i _ _ _
      have hindex : q.index = j := by
        obtain ⟨-, rfl⟩ := Prod.mk.inj he
        rfl
      split at hp
      · obtain ⟨r, hr, hrp⟩ := (Inherits.retire (.refl _) _).ports i p hp
        rw [PortTable.port?_clear, hslot, hindex] at hr
        split at hr
        · cases hr
        · exact Or.inl ⟨r, hr, hrp⟩
      · rename_i e henslave
        have hp : ports.port? i = some p := hp
        rw [hslot] at hp
        split at hp
        · cases hp
          exact Or.inr ⟨d, e, ports, hd, hadd, henslave⟩
        · exact Or.inl ⟨p, hp, rfl⟩

theorem ports_portAdd {id : DeviceId} {ingress : IngressDefaults} {i : PortIndex} {p : Port}
    (hp : (b.portAdd id ingress).1.ports.port? i = some p) :
    (∃ q, b.ports.port? i = some q ∧ q.fixed = p.fixed) ∨ p.endpoint = .device id := by
  rcases port?_portAdd hp with hold | ⟨d, e, ports, -, hadd, -⟩
  · exact Or.inl hold
  · obtain ⟨j, -, he⟩ := PortTable.add_eq_ok hadd
    obtain ⟨-, rfl⟩ := Prod.mk.inj he
    exact Or.inr rfl

theorem vlans_portAdd {id : DeviceId} {ingress : IngressDefaults}
    (hv : (b.portAdd id ingress).1.vlans.Has v) : b.vlans.Has v := by
  unfold portAdd at hv
  split at hv
  · exact hv
  · split at hv
    · exact hv
    · split at hv
      · have hbefore := (Inherits.retire (.refl _) _).vlans v hv
        exact hbefore
      · exact (VlanDb.has_modify fun v => v.vid_attach _ false).1 hv

theorem ports_vlanAdd (b : Bridge) (vid : Vid) : (b.vlanAdd vid).1.ports = b.ports := by
  unfold vlanAdd withVlans
  split <;> rfl

theorem vlans_vlanAdd {vid : Vid} (hv : (b.vlanAdd vid).1.vlans.Has v) :
    vid = v ∨ b.vlans.Has v := by
  unfold vlanAdd withVlans at hv
  split at hv
  · rename_i vlans hcreate
    exact ((VlanDb.has_create hcreate v).1 hv).imp Eq.symm id
  · exact Or.inr hv

/-! ### Events -/

theorem inherits_receive (b : Bridge) (h : Handle) (f : Frame) : Inherits b (b.receive h f).1 := by
  obtain ⟨t, net, cs, he, -, -⟩ := receive_fst b h f
  rw [he]
  exact .of_eq (fun _ => rfl) rfl

/-- An event adds a port or a VLAN, or leaves nothing that was not there. -/
theorem next_adds_or_inherits (b : Bridge) (e : Event) :
    Inherits b (b.next e) ∨
      (e.AddsPort ∧ ∃ id ingress, b.next e = (b.portAdd id ingress).1) ∨
      ∃ v, e.AddsVlan v ∧ b.next e = (b.vlanAdd v).1 := by
  have hperform : ∀ op : Operation, op.IsControl → Inherits b (b.perform op).1 ∨
      (op.AddsPort ∧ ∃ id ingress, (b.perform op).1 = (b.portAdd id ingress).1) ∨
      ∃ v, op.AddsVlan v ∧ (b.perform op).1 = (b.vlanAdd v).1 := by
    intro op hop
    by_cases hport : op.AddsPort
    · cases op with
      | portAdd id ingress => exact Or.inr (Or.inl ⟨trivial, id, ingress, rfl⟩)
      | _ => exact hport.elim
    · by_cases hvlan : ∃ v, op.AddsVlan v
      · obtain ⟨v, hv⟩ := hvlan
        cases op with
        | vlanAdd vid => exact Or.inr (Or.inr ⟨vid, rfl, rfl⟩)
        | _ => exact hv.elim
      · exact Or.inl (inherits_perform b hop hport (not_exists.1 hvlan))
  cases e with
  | perform op control => exact hperform op control
  | request r =>
    have hnext : b.next (.request r) = (b.handle r).1 := rfl
    rw [hnext, handle_fst]
    cases hop : b.operation? r with
    | none => exact Or.inl (.refl b)
    | some op =>
      rcases hperform op (operation?_eq_some hop).1 with h | ⟨h, hadd⟩ | ⟨v, h, hadd⟩
      · exact Or.inl h
      · exact Or.inr (Or.inl ⟨(adds_of_operation? (v := Vid.zero) hop).1 h, hadd⟩)
      · exact Or.inr (Or.inr ⟨v, (adds_of_operation? hop).2 h, hadd⟩)
  | receive h f => exact Or.inl (inherits_receive b h f)
  | wake now => exact Or.inl (inherits_wake b now)
  | clock now => exact Or.inl (.of_eq (fun _ => rfl) rfl)
  | trap trap => exact Or.inl (.of_eq (fun _ => rfl) rfl)
  | network net => exact Or.inl (.of_eq (fun _ => rfl) rfl)

theorem port?_next {e : Event} (he : ¬ e.AddsPort) {i : PortIndex} (hi : b.ports.port? i = none) :
    (b.next e).ports.port? i = none := by
  rcases b.next_adds_or_inherits e with h | ⟨h, -⟩ | ⟨v, -, h⟩
  · refine Option.eq_none_iff_forall_ne_some.2 fun p hp => ?_
    obtain ⟨q, hq, -⟩ := h.ports i p hp
    rw [hi] at hq
    cases hq
  · exact absurd h he
  · rw [h, ports_vlanAdd]
    exact hi

theorem not_has_next {e : Event} (he : ¬ e.AddsVlan v) (hv : ¬ b.vlans.Has v) :
    ¬ (b.next e).vlans.Has v := by
  rcases b.next_adds_or_inherits e with h | ⟨-, id, ingress, h⟩ | ⟨w, hw, h⟩
  · exact mt (h.vlans v) hv
  · rw [h]
    exact mt vlans_portAdd hv
  · rw [h]
    intro hnow
    rcases vlans_vlanAdd hnow with rfl | hbefore
    · exact he hw
    · exact hv hbefore

/-- Every port but the local one is that of a device. -/
def OnDevices (b : Bridge) : Prop :=
  ∀ i p, b.ports.port? i = some p → i ≠ localPort → ∃ id, p.endpoint = .device id

theorem OnDevices.next (h : b.OnDevices) (e : Event) : (b.next e).OnDevices := by
  intro i p hp hi
  have hold : ∀ q, b.ports.port? i = some q → q.fixed = p.fixed → ∃ id, p.endpoint = .device id := by
    intro q hq hqp
    obtain ⟨id, hid⟩ := h i q hq hi
    exact ⟨id, (congrArg (·.2.2) hqp).symm.trans hid⟩
  rcases b.next_adds_or_inherits e with hsame | ⟨-, id, ingress, hadd⟩ | ⟨v, -, hadd⟩
  · obtain ⟨q, hq, hqp⟩ := hsame.ports i p hp
    exact hold q hq hqp
  · rw [hadd] at hp
    rcases ports_portAdd hp with ⟨q, hq, hqp⟩ | hnew
    · exact hold q hq hqp
    · exact ⟨id, hnew⟩
  · rw [hadd, ports_vlanAdd] at hp
    exact h i p hp hi

theorem onDevices_of_create {config : BridgeConfig} {network : Network}
    (h : Bridge.create config network = .ok b) : b.OnDevices := by
  intro i p hp hi
  rw [create_eq_ok h] at hp
  have hp : (PortTable.ofName config.name).port? i = some p := hp
  rw [PortTable.port?_ofName, if_neg (Ne.symm hi)] at hp
  cases hp

end Bridge

/-! ### Runs -/

namespace Transit

variable {s : Transit}

/-- Steps that are no events leave the tables alone. -/
theorem next_tables (s : Transit) (step : Step) :
    (∃ e, step = .event e ∧ (s.next step).bridge = s.bridge.next e) ∨
      (s.next step).bridge.ports = s.bridge.ports ∧ (s.next step).bridge.vlans = s.bridge.vlans := by
  cases step with
  | event e => exact Or.inl ⟨e, rfl, rfl⟩
  | pin => exact Or.inr ⟨rfl, rfl⟩
  | drop h =>
    refine Or.inr ?_
    unfold Transit.next
    simp only
    split <;> exact ⟨rfl, rfl⟩

theorem Reachable.onDevices (hs : s.Reachable) : s.bridge.OnDevices := by
  induction hs with
  | create h => exact Bridge.onDevices_of_create h
  | @next s step hs ih =>
    rcases s.next_tables step with ⟨e, -, he⟩ | ⟨hports, -⟩
    · rw [he]
      exact ih.next e
    · intro i p
      rw [hports]
      exact ih i p

/-- A slot that is empty stays empty until a port is added. -/
theorem port?_run {i : PortIndex} (hi : s.bridge.ports.port? i = none) {steps : List Step}
    (hsteps : ∀ step ∈ steps, ¬ step.AddsPort) : (s.run steps).bridge.ports.port? i = none := by
  induction steps generalizing s with
  | nil => exact hi
  | cons step steps ih =>
    obtain ⟨hstep, hrest⟩ := List.forall_mem_cons.1 hsteps
    refine ih ?_ hrest
    rcases s.next_tables step with ⟨e, rfl, he⟩ | ⟨hports, -⟩
    · rw [he]
      exact Bridge.port?_next hstep hi
    · rw [hports]
      exact hi

/-- A VLAN that is not there stays away until it is made. -/
theorem not_has_run {v : Vid} (hv : ¬ s.bridge.vlans.Has v) {steps : List Step}
    (hsteps : ∀ step ∈ steps, ¬ step.AddsVlan v) : ¬ (s.run steps).bridge.vlans.Has v := by
  induction steps generalizing s with
  | nil => exact hv
  | cons step steps ih =>
    obtain ⟨hstep, hrest⟩ := List.forall_mem_cons.1 hsteps
    refine ih ?_ hrest
    rcases s.next_tables step with ⟨e, rfl, he⟩ | ⟨-, hvlans⟩
    · rw [he]
      exact Bridge.not_has_next hstep hv
    · rw [hvlans]
      exact hv

end Transit

end VlanBridge
