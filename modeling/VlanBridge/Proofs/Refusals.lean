import VlanBridge.Proofs.Enslavement
import VlanBridge.Proofs.Integrity
/-!
# Operations that fail change nothing

An operation checks everything before it changes anything, with two exceptions. Taking a port out of a
VLAN that it is no member of clears the port from the VLAN's sets before the failure is reported. And
adding a port publishes the port before the device is enslaved and the port joins VLAN 0; but the device
of a port that has been admitted has no master, so it can be enslaved unless it refuses every master, and
VLAN 0 is always there to be joined.
-/

namespace VlanBridge

open VlanBridge.Net

/-- No device refuses a master of its own accord. -/
def Network.Yielding (net : Network) : Prop :=
  ∀ id d, net.device? id = some d → d.refusesMaster = none

theorem Device.enslave_of_unowned {d : Device} (hmaster : d.master = none)
    (hyields : d.refusesMaster = none) (bridge : String) :
    d.enslave bridge = .ok { d with master := some bridge } := by
  unfold enslave attachTo
  rw [hyields, hmaster]

/-- A device that becomes a port has no master. -/
theorem PortTable.unowned_of_add {t u : PortTable} {d : Device} {id : DeviceId}
    {ingress : IngressDefaults} {bridgeName : String} {p : Port}
    (h : t.add d id ingress bridgeName = .ok (u, p)) : d.master = none := by
  refine Option.not_isSome_iff_eq_none.1 fun hmaster => ?_
  have hchecked : ∃ e, d.checkEligible bridgeName = .error e := by
    unfold Device.checkEligible
    split
    · exact ⟨_, rfl⟩
    · split
      · exact ⟨_, rfl⟩
      · split
        · exact ⟨_, rfl⟩
        · rw [if_pos (show d.hasMaster = true from hmaster)]
          exact ⟨_, rfl⟩
  obtain ⟨e, he⟩ := hchecked
  unfold add at h
  rw [he] at h
  split at h
  · cases h
  · cases h

/-- The table itself does not ask a device to take a master. -/
theorem PortTable.add_eq_error {t : PortTable} {d : Device} {id : DeviceId}
    {ingress : IngressDefaults} {bridgeName : String} {e : BridgeError}
    (h : t.add d id ingress bridgeName = .error e) (refusal : DeviceError) :
    e ≠ .enslaveRefused refusal := by
  rintro rfl
  unfold add at h
  split at h
  · cases h
  · split at h
    · rename_i hineligible
      cases h
      unfold Device.checkEligible at hineligible
      repeat' split at hineligible
      all_goals cases hineligible
    · split at h
      · cases h
      · cases h

namespace Bridge

variable {b : Bridge}

/-- If an operation on a bridge fails, the bridge is as it was. -/
def Atomic {α : Type} (b : Bridge) (o : Outcome α) : Prop := ∀ e, o.2 = .error e → o.1 = b

theorem atomic_self {α : Type} (r : Except BridgeError α) : b.Atomic (b, r) := fun _ _ => rfl

theorem atomic_ok {α : Type} (c : Bridge) (a : α) : b.Atomic (c, .ok a) := fun _ h => nomatch h

theorem atomic_answer {α β : Type} {o : Outcome α} (h : b.Atomic o) (form : α → β) :
    b.Atomic (answer o form) := by
  intro e he
  unfold answer at he ⊢
  cases ho : o.2 with
  | error e' => exact h e' ho
  | ok a =>
    rw [ho] at he
    cases he

/-! ### Ports -/

/-- An admitted device is enslaved, so its port is never taken back. -/
theorem portAdd_cases (hdevices : b.network.Yielding) (id : DeviceId) (ingress : IngressDefaults) :
    (∃ e, (∀ refusal, e ≠ .enslaveRefused refusal) ∧ b.portAdd id ingress = (b, .error e)) ∨
      ∃ handle, (b.portAdd id ingress).2 = .ok handle := by
  unfold portAdd
  split
  · refine Or.inl ⟨_, fun refusal h => ?_, rfl⟩
    cases h
  · rename_i d hd
    split
    · rename_i e hadd
      exact Or.inl ⟨e, PortTable.add_eq_error hadd, rfl⟩
    · rename_i ports p hadd
      rw [d.enslave_of_unowned (PortTable.unowned_of_add hadd) (hdevices id d hd)]
      exact Or.inr ⟨_, rfl⟩

theorem atomic_portAdd (hdevices : b.network.Yielding) (id : DeviceId) (ingress : IngressDefaults) :
    b.Atomic (b.portAdd id ingress) := by
  rcases portAdd_cases hdevices id ingress with ⟨e, -, he⟩ | ⟨handle, hok⟩
  · rw [he]
    exact atomic_self _
  · intro e he
    rw [hok] at he
    cases he

theorem atomic_portDel (b : Bridge) (n : Nat) : b.Atomic (b.portDel n) := by
  unfold portDel
  split
  · exact atomic_self _
  · exact atomic_ok _ _

theorem atomic_portSetPvid (b : Bridge) (n : Nat) (vid : Vid) : b.Atomic (b.portSetPvid n vid) := by
  unfold portSetPvid
  split
  · exact atomic_self _
  · exact atomic_self _
  · exact atomic_ok _ _

theorem atomic_portSetIngress (b : Bridge) (n : Nat) (ingress : IngressDefaults) :
    b.Atomic (b.portSetIngress n ingress) := by
  unfold portSetIngress
  split
  · exact atomic_self _
  · exact atomic_ok _ _

/-! ### VLANs -/

theorem atomic_withVlans (b : Bridge) (changed : Except BridgeError VlanDb) :
    b.Atomic (b.withVlans changed) := by
  unfold withVlans
  split
  · exact atomic_ok _ _
  · exact atomic_self _

theorem atomic_withPort (b : Bridge) (n : Nat) (change : PortIndex → Except BridgeError VlanDb) :
    b.Atomic (b.withPort n change) := by
  unfold withPort
  split
  · exact atomic_self _
  · exact atomic_withVlans b _

theorem atomic_vlanDel (b : Bridge) (vid : Vid) : b.Atomic (b.vlanDel vid) := by
  unfold vlanDel
  split
  · exact atomic_self _
  · exact atomic_ok _ _

/-- A port can always join VLAN 0. -/
theorem Integrity.attach_default (hi : b.Integrity) (i : PortIndex) (tagged : Bool) :
    b.vlans.attach Vid.zero i tagged = .ok (b.vlans.modify Vid.zero (·.attach i tagged)) := by
  obtain ⟨r, hr⟩ := Option.isSome_iff_exists.1 hi.defaultVlan
  simp only [VlanDb.attach, VlanDb.modifyExisting, VlanDb.require, VlanDb.vlan?, hr, Option.map_some]

/-! ### Entries -/

theorem atomic_fdbFlush (b : Bridge) (f : FlushFilter) : b.Atomic (b.fdbFlush f) := by
  unfold fdbFlush
  split
  · exact atomic_self _
  · exact atomic_ok _ _

theorem atomic_fdbAdd (b : Bridge) (key : Key) (ports : PortSet) (origin : Origin) :
    b.Atomic (b.fdbAdd key ports origin) := by
  unfold fdbAdd
  split
  · exact atomic_self _
  · exact atomic_self _
  · split
    · exact atomic_self _
    · exact atomic_ok _ _

theorem atomic_fdbDel (b : Bridge) (key : Key) : b.Atomic (b.fdbDel key) := by
  unfold fdbDel
  split
  · exact atomic_self _
  · exact atomic_ok _ _

/-! ### All operations but one -/

theorem atomic_startAgeing (b : Bridge) (timer : Option Timer) : b.Atomic (b.startAgeing timer) := by
  unfold startAgeing
  split
  · exact atomic_self _
  · split
    · exact atomic_self _
    · exact atomic_ok _ _

theorem atomic_perform (hdevices : b.network.Yielding) {op : Operation} (hop : op.IsControl)
    (hdetach : ∀ vid n, op ≠ .vlanDetach vid n) : b.Atomic (b.perform op) := by
  cases op with
  | portAdd device ingress => exact atomic_answer (atomic_portAdd hdevices device ingress) _
  | portDel port => exact atomic_answer (atomic_portDel b port) _
  | portSetPvid port vid => exact atomic_answer (atomic_portSetPvid b port vid) _
  | portSetIngress port ingress => exact atomic_answer (atomic_portSetIngress b port ingress) _
  | vlanAdd vid => exact atomic_answer (atomic_withVlans b _) _
  | vlanDel vid => exact atomic_answer (atomic_vlanDel b vid) _
  | vlanAttach vid port tagged => exact atomic_answer (atomic_withPort b port _) _
  | vlanDetach vid port => exact absurd rfl (hdetach vid port)
  | vlanSetLearning vid enabled => exact atomic_answer (atomic_withVlans b _) _
  | vlanSetFlood vid c port enabled => exact atomic_answer (atomic_withPort b port _) _
  | vlanSetRouter vid port enabled => exact atomic_answer (atomic_withPort b port _) _
  | fdbFlush filter => exact atomic_answer (atomic_fdbFlush b filter) _
  | fdbAdd key ports origin => exact atomic_answer (atomic_fdbAdd b key ports origin) _
  | fdbDel key => exact atomic_answer (atomic_fdbDel b key) _
  | learn => exact hop.elim
  | startAgeing timer => exact atomic_answer (atomic_startAgeing b timer) _
  | reclaim | quiesce | sleep | shutdown => exact atomic_ok _ _

/-- Only a request to take a port out of a VLAN does so. -/
theorem not_detach_of_operation? {r : Request} {op : Operation} (h : b.operation? r = some op)
    (hdetach : ∀ vid port, r ≠ .vlanDetach vid port) : ∀ vid n, op ≠ .vlanDetach vid n := by
  rintro vid n rfl
  cases r with
  | vlanDetach vid port => exact hdetach vid port rfl
  | portAdd =>
    obtain ⟨id, -, hid⟩ := Option.map_eq_some_iff.1 h
    cases hid
  | portDel | portSetPvid | portSetIngress | vlanAttach | vlanSetFlood | vlanSetRouter =>
    simp only [operation?] at h
    obtain ⟨m, hm⟩ := named_eq_some h
    cases hm
  | fdbFlush port =>
    cases port with
    | none => cases h
    | some name =>
      simp only [operation?] at h
      obtain ⟨m, hm⟩ := named_eq_some h
      cases hm
  | fdbAdd key ports origin =>
    simp only [operation?] at h
    split at h
    · cases h
    · cases h
  | vlanAdd | vlanDel | vlanSetLearning | fdbDel | portList | vlanList | fdbDump | counters => cases h

theorem atomic_handle (hdevices : b.network.Yielding) {r : Request}
    (hdetach : ∀ vid port, r ≠ .vlanDetach vid port) : b.Atomic (b.handle r) := by
  have hsame := handle_eq b r
  cases hop : b.operation? r with
  | none =>
    rw [hop] at hsame
    rw [hsame]
    exact atomic_self _
  | some op =>
    rw [hop] at hsame
    rw [hsame]
    exact atomic_answer
      (atomic_perform hdevices (operation?_eq_some hop).1 (not_detach_of_operation? hop hdetach)) _

/-- As long as no device refuses every master, an operation or a request that fails leaves the bridge and
its devices as they were, unless a port was to be taken out of a VLAN. Adding a port does not fail at its
device, nor at joining VLAN 0. -/
theorem unchanged_of_error (hb : b.Reachable) (hdevices : b.network.Yielding) :
    (∀ op e, op.IsControl → (∀ vid n, op ≠ .vlanDetach vid n) → (b.perform op).2 = .error e →
      (b.perform op).1 = b) ∧
    (∀ r e, (∀ vid port, r ≠ .vlanDetach vid port) → (b.handle r).2 = .error e →
      (b.handle r).1 = b) ∧
    (∀ id ingress refusal, (b.portAdd id ingress).2 ≠ .error (.enslaveRefused refusal)) ∧
    ∀ i, b.vlans.attach Vid.zero i false = .ok (b.joinDefaultVlan i).vlans := by
  refine ⟨fun op e hop hdetach he => atomic_perform hdevices hop hdetach e he,
    fun r e hdetach he => atomic_handle hdevices hdetach e he, ?_, ?_⟩
  · intro id ingress refusal hrefused
    rcases portAdd_cases hdevices id ingress with ⟨e, hother, he⟩ | ⟨handle, hok⟩
    · rw [he] at hrefused
      exact hother refusal (Except.error.inj hrefused)
    · rw [hok] at hrefused
      cases hrefused
  · exact fun i => hb.sound_integrity.2.attach_default i false

/-- One device has another master, and the other is a port already. Neither can be added, and a VLAN that
is not there cannot be deleted. -/
theorem unchanged_of_error_owned :
    let seven : Vid := ⟨7, Nat.le_of_ble_eq_true rfl⟩
    let owned := ((beside ["eth0", "eth1"]).network.attach 1 "br9").1
    let b := (beside ["eth0", "eth1"]).run [.network owned, .request (.portAdd "eth0" {})]
    b.Reachable ∧ b.network.Yielding ∧
      (b.perform (.portAdd 1 {})).2 = .error (.hasMaster "eth1") ∧ (b.perform (.portAdd 1 {})).1 = b ∧
      (b.handle (.portAdd "eth0" {})).2 = .error (.alreadyPort "eth0") ∧
      (b.handle (.portAdd "eth0" {})).1 = b ∧
      (b.handle (.vlanDel seven)).2 = .error (.unknownVlan seven) ∧
      (b.handle (.vlanDel seven)).1 = b ∧
      b.vlans.attach Vid.zero 2 false = .ok (b.joinDefaultVlan 2).vlans := by
  intro seven owned b
  have hb : b.Reachable := (reachable_beside _).run _
  have hdevices : b.network.Yielding := by
    have hall : b.network.devices.all (·.refusesMaster.isNone) = true := by decide +kernel
    intro id d hd
    obtain ⟨hid, rfl⟩ := Array.getElem?_eq_some_iff.1 hd
    exact Option.isNone_iff_eq_none.1 (Array.all_eq_true.1 hall id hid)
  have howned : (b.perform (.portAdd 1 {})).2 = .error (.hasMaster "eth1") := by decide +kernel
  have hport : (b.handle (.portAdd "eth0" {})).2 = .error (.alreadyPort "eth0") := by decide +kernel
  have hvlan : (b.handle (.vlanDel seven)).2 = .error (.unknownVlan seven) := by decide +kernel
  obtain ⟨hperform, hhandle, -, hjoin⟩ := unchanged_of_error hb hdevices
  exact ⟨hb, hdevices, howned, hperform _ _ trivial (by simp) howned, hport,
    hhandle _ _ (by simp) hport, hvlan, hhandle _ _ (by simp) hvlan, hjoin 2⟩

end Bridge

end VlanBridge
