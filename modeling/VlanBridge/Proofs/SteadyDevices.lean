import VlanBridge.Proofs.Additions
import VlanBridge.Proofs.Enslavement
import VlanBridge.Proofs.Placements
/-!
# Devices that stay what they are

What becomes a port was admissible, and it gets a master. As long as the network does not replace devices by
others of another kind, nothing but the master of a device changes: once it is released, it may become a
port under its name again (`Bridge.Restorable`). Who its master is meanwhile makes no difference.
-/

namespace VlanBridge

open VlanBridge.Net

namespace Device

variable {d e : Device} {bridgeName master : String}

/-- An eligible device that takes a master is admissible whenever it has none. -/
theorem admissible_release (heligible : d.checkEligible bridgeName = .ok ())
    (henslave : d.enslave master = .ok e) : d.release.Admissible d.name := by
  have hyields : d.refusesMaster = none := by
    unfold enslave at henslave
    split at henslave
    · cases henslave
    · assumption
  unfold checkEligible at heligible
  split at heligible
  · cases heligible
  split at heligible
  · cases heligible
  rename_i hkind
  split at heligible
  · cases heligible
  rename_i hstation
  split at heligible
  · cases heligible
  split at heligible
  · cases heligible
  rename_i hallowed
  have hstation : d.mac.isStation = true := by simpa using hstation
  have hallowed : d.bridgingAllowed = true := by simpa using hallowed
  exact ⟨rfl, not_not.1 hkind, hstation, rfl, hallowed, hyields⟩

theorem release_of_enslave (henslave : d.enslave master = .ok e) : e.release = d.release := by
  have htwice : e.release.release = d.release := congrArg Device.release (release_enslave henslave)
  exact htwice

end Device

theorem PortTable.eligible_of_add {t u : PortTable} {d : Device} {id : DeviceId}
    {ingress : IngressDefaults} {bridgeName : String} {p : Port}
    (h : t.add d id ingress bridgeName = .ok (u, p)) : d.checkEligible bridgeName = .ok () := by
  unfold add at h
  split at h
  · cases h
  · split at h
    · cases h
    · assumption

/-! ### Networks -/

namespace Network

/-- Another network has all devices of this one, and each that would do for a port, had it no master, would
do for the same port there. -/
def KeepsNatures (net other : Network) : Prop :=
  ∀ id d, net.device? id = some d → ∃ e, other.device? id = some e ∧
    ∀ name, d.release.Admissible name → e.release.Admissible name

variable {net other third : Network}

theorem KeepsNatures.refl (net : Network) : net.KeepsNatures net :=
  fun _ d hd => ⟨d, hd, fun _ h => h⟩

theorem KeepsNatures.trans (h : net.KeepsNatures other) (k : other.KeepsNatures third) :
    net.KeepsNatures third := by
  intro id d hd
  obtain ⟨e, he, hde⟩ := h id d hd
  obtain ⟨g, hg, heg⟩ := k id e he
  exact ⟨g, hg, fun name hname => heg name (hde name hname)⟩

theorem Alike.keepsNatures (h : net.Alike other) : net.KeepsNatures other := by
  intro id d hd
  rcases h.device? id with ⟨hnone, -⟩ | ⟨a, e, ha, he, hsetup⟩
  · cases hd.symm.trans hnone
  · cases hd.symm.trans ha
    exact ⟨e, he, fun _ hname => hname.of_setup_eq (Device.setup_release hsetup)⟩

theorem keepsNatures_modifyDevice {id : DeviceId} {f : Device → Device}
    (hf : ∀ d, net.device? id = some d → (f d).release = d.release) :
    net.KeepsNatures (net.modifyDevice id f) := by
  intro other d hd
  by_cases hid : other = id
  · subst hid
    refine ⟨f d, ?_, fun _ hname => ?_⟩
    · rw [device?_modifyDevice, if_pos rfl, hd, Option.map_some]
    · rw [hf d hd]
      exact hname
  · refine ⟨d, ?_, fun _ hname => hname⟩
    rw [device?_modifyDevice, if_neg hid, hd]

end Network

/-! ### Bridges -/

namespace Bridge

variable {b c : Bridge} {guards : List Guard}

/-- The device of every port is there, and once it is released it would do for the port again. -/
def Restorable (b : Bridge) : Prop :=
  ∀ i p id, b.ports.port? i = some p → p.endpoint = .device id →
    ∃ d, b.network.device? id = some d ∧ d.release.Admissible p.name

/-- At an event no device is replaced by one of another nature. -/
def LeavesNatures (b : Bridge) : Event → Prop
  | .network net => b.network.KeepsNatures net
  | _ => True

theorem Effects.keepsNatures (h : Effects b c) : b.network.KeepsNatures c.network := by
  induction h with
  | refl => exact .refl _
  | tail _ hstep ih =>
    refine ih.trans ?_
    cases hstep with
    | unseen h =>
      rw [h.network]
      exact .refl _
    | enslaved name ingress hi hd he =>
      refine Network.keepsNatures_modifyDevice fun d hd' => ?_
      cases hd.symm.trans hd'
      exact Device.release_of_enslave he
    | released hp =>
      unfold releaseDevice
      split
      · exact Network.keepsNatures_modifyDevice fun _ _ => rfl
      · exact .refl _

theorem keepsNatures_next (hs : b.Sound guards) {e : Event} (he : b.LeavesNatures e) :
    b.network.KeepsNatures (b.next e).network := by
  cases e with
  | receive h f =>
    obtain ⟨t, net, cs, hfst, -, halike⟩ := receive_fst b h f
    change b.network.KeepsNatures (b.receive h f).1.network
    rw [hfst]
    exact halike.keepsNatures
  | network net => exact he
  | perform | request | wake | clock | trap => exact Effects.keepsNatures (next_effects hs nofun nofun)

theorem restorable_of_create {config : BridgeConfig} {network : Network}
    (h : Bridge.create config network = .ok b) : b.Restorable := by
  intro i p id hp hid
  rw [endpoint_of_create h hp] at hid
  cases hid

theorem Restorable.next (hb : b.Restorable) (hs : b.Sound guards) {e : Event}
    (he : b.LeavesNatures e) : (b.next e).Restorable := by
  intro i p id hp hid
  have hnatures := keepsNatures_next hs he
  have hold : ∀ q, b.ports.port? i = some q → q.fixed = p.fixed →
      ∃ d, (b.next e).network.device? id = some d ∧ d.release.Admissible p.name := by
    intro q hq hqp
    have hname : q.name = p.name := congrArg (·.2.1) hqp
    have hendpoint : q.endpoint = p.endpoint := congrArg (·.2.2) hqp
    obtain ⟨d, hd, hadmissible⟩ := hb i q id hq (hendpoint.trans hid)
    obtain ⟨d', hd', hkept⟩ := hnatures id d hd
    exact ⟨d', hd', hkept _ (hname ▸ hadmissible)⟩
  rcases b.next_adds_or_inherits e with h | ⟨-, new, ingress, hadd⟩ | ⟨v, -, hadd⟩
  · obtain ⟨q, hq, hqp⟩ := h.ports i p hp
    exact hold q hq hqp
  · rw [hadd] at hp
    rcases port?_portAdd hp with ⟨q, hq, hqp⟩ | ⟨d, enslaved, ports, hd, hports, henslave⟩
    · exact hold q hq hqp
    · obtain ⟨j, -, hinstall⟩ := PortTable.add_eq_ok hports
      obtain ⟨-, rfl⟩ := Prod.mk.inj hinstall
      cases hid
      obtain ⟨d', hd', hkept⟩ := hnatures id d hd
      exact ⟨d', hd', hkept _ (Device.admissible_release (PortTable.eligible_of_add hports) henslave)⟩
  · rw [hadd, ports_vlanAdd] at hp
    exact hold p hp rfl

end Bridge

/-! ### Frames in flight -/

namespace Transit

variable {s : Transit}

def LeavesNatures (s : Transit) : Step → Prop
  | .event e => s.bridge.LeavesNatures e
  | .pin | .drop _ => True

/-- The states that a bridge can come into as long as no device is replaced by one of another nature. -/
inductive Steady : Transit → Prop where
  | create {config : BridgeConfig} {network : Network} {b : Bridge} :
      Bridge.create config network = .ok b → Steady { bridge := b }
  | next {s : Transit} (step : Step) : Steady s → s.LeavesNatures step → Steady (s.next step)

theorem Steady.reachable (hs : s.Steady) : s.Reachable := by
  induction hs with
  | create h => exact .create h
  | next step _ _ ih => exact ih.next step

theorem Steady.run (hs : s.Steady) {steps : List Step}
    (h : ∀ step ∈ steps, ∀ net, step ≠ .event (.network net)) : (s.run steps).Steady := by
  induction steps generalizing s with
  | nil => exact hs
  | cons step steps ih =>
    have hleaves : s.LeavesNatures step := by
      have hstep := h step (List.mem_cons_self ..)
      cases step with
      | event e =>
        cases e with
        | network net => exact absurd rfl (hstep net)
        | perform | request | receive | wake | clock | trap => exact trivial
      | pin | drop => exact trivial
    exact ih (hs.next step hleaves) fun step' hstep' => h step' (List.mem_cons_of_mem _ hstep')

theorem Steady.restorable (hs : s.Steady) : s.bridge.Restorable := by
  induction hs with
  | create h => exact Bridge.restorable_of_create h
  | @next s step hs hleaves ih =>
    cases step with
    | event e => exact ih.next hs.reachable.sound hleaves
    | pin => exact ih
    | drop h =>
      unfold Transit.next
      simp only
      split <;> exact ih

end Transit

end VlanBridge
