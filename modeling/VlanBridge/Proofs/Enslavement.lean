import VlanBridge.Proofs.Surroundings
/-!
# Devices that only the bridge touches

As long as nobody else gives a device a master or takes it away, the device of every port has the bridge
as its master, and no two ports have the same device. So such a device takes every frame that the bridge
hands it, unless it refuses frames of its own accord.
-/

namespace VlanBridge

open VlanBridge.Net

theorem Port.endpoint_of_device? {p : Port} {id : DeviceId} (h : p.device? = some id) :
    p.endpoint = .device id := by
  unfold device? at h
  split at h
  · cases h
  · rename_i hendpoint
    cases h
    exact hendpoint

namespace Device

theorem master_of_setup_eq {d e : Device} (h : e.setup = d.setup) : e.master = d.master :=
  congrArg (·.master) h

theorem enslave_eq_ok {d e : Device} {bridge : String} (h : d.enslave bridge = .ok e) :
    d.master = none ∧ e.master = some bridge := by
  unfold enslave attachTo at h
  split at h
  · cases h
  · split at h
    · cases h
    · rename_i hmaster
      cases h
      exact ⟨hmaster, rfl⟩

end Device

namespace Network

/-- Another network has the devices of this one, each with the master that it has here. -/
def SameMasters (net other : Network) : Prop :=
  ∀ id d, net.device? id = some d → ∃ e, other.device? id = some e ∧ e.master = d.master

/-- What is behind an endpoint does not refuse frames of its own accord. -/
def Willing (net : Network) (endpoint : Endpoint) : Prop :=
  ∀ id d, endpoint = .device id → net.device? id = some d → d.refusesFrames = none

theorem Alike.sameMasters {net other : Network} (h : net.Alike other) : net.SameMasters other := by
  intro id d hd
  rcases h.device? id with ⟨hnone, -⟩ | ⟨d', e, hd', he, hs⟩
  · rw [hd] at hnone
    cases hnone
  · rw [hd] at hd'
    cases hd'
    exact ⟨e, he, Device.master_of_setup_eq hs⟩

theorem Alike.willing {net other : Network} (h : net.Alike other) {endpoint : Endpoint}
    (hwilling : net.Willing endpoint) : other.Willing endpoint := by
  intro id e hid he
  rcases h.device? id with ⟨-, hnone⟩ | ⟨d, e', hd, he', hs⟩
  · rw [he] at hnone
    cases hnone
  · rw [he] at he'
    cases he'
    have hframes : e.refusesFrames = d.refusesFrames := congrArg (·.refusesFrames) hs
    exact hframes.trans (hwilling id d hid hd)

end Network

namespace Bridge

variable {b c : Bridge}

/-- At an event nobody but the bridge changes the master of a device. -/
def LeavesMasters (b : Bridge) : Event → Prop
  | .network net => b.network.SameMasters net
  | _ => True

/-- The states that a bridge can come into as long as only it touches its devices. -/
inductive Undisturbed : Bridge → Prop where
  | create {config : BridgeConfig} {network : Network} {b : Bridge} :
      Bridge.create config network = .ok b → Undisturbed b
  | next {b : Bridge} (e : Event) : Undisturbed b → b.LeavesMasters e → Undisturbed (b.next e)

theorem Undisturbed.reachable (hb : b.Undisturbed) : b.Reachable := by
  induction hb with
  | create h => exact .create h
  | next e _ _ ih => exact ih.next e

theorem Undisturbed.run (hb : b.Undisturbed) {events : List Event}
    (h : ∀ e ∈ events, ∀ net, e ≠ .network net) : (b.run events).Undisturbed := by
  induction events generalizing b with
  | nil => exact hb
  | cons e es ih =>
    have hleaves : b.LeavesMasters e := by
      have he := h e (List.mem_cons_self ..)
      cases e with
      | network net => exact absurd rfl (he net)
      | perform | request | receive | wake | clock | trap => exact trivial
    exact ih (hb.next e hleaves) fun e' he' => h e' (List.mem_cons_of_mem _ he')

/-- The device of every port has the bridge as its master and belongs to no other port. -/
structure Enslaved (b : Bridge) : Prop where
  master : ∀ i p id, b.ports.port? i = some p → p.endpoint = .device id →
    ∃ d, b.network.device? id = some d ∧ d.master = some b.config.name
  apart : ∀ i j p q id, b.ports.port? i = some p → b.ports.port? j = some q →
    p.endpoint = .device id → q.endpoint = .device id → i = j

/-! ### What keeps to it -/

theorem endpoint_of_create {config : BridgeConfig} {network : Network}
    (h : Bridge.create config network = .ok b) {i : PortIndex} {p : Port}
    (hp : b.ports.port? i = some p) : p.endpoint = .localStack := by
  rw [create_eq_ok h] at hp
  have hp : (PortTable.ofName config.name).port? i = some p := hp
  rw [PortTable.port?_ofName] at hp
  split at hp
  · cases hp
    rfl
  · cases hp

theorem enslaved_of_create {config : BridgeConfig} {network : Network}
    (h : Bridge.create config network = .ok b) : b.Enslaved := by
  have hlocal : ∀ i p id, b.ports.port? i = some p → p.endpoint ≠ .device id := by
    intro i p id hp hid
    rw [endpoint_of_create h hp] at hid
    cases hid
  refine ⟨?_, ?_⟩
  · intro i p id hp hid
    exact absurd hid (hlocal i p id hp)
  · intro i j p q id hp _ hid _
    exact absurd hid (hlocal i p id hp)

theorem Enslaved.same (hb : b.Enslaved) (hconfig : c.config = b.config)
    (hports : ∀ i, (c.ports.port? i).map Port.fixed = (b.ports.port? i).map Port.fixed)
    (hnetwork : b.network.SameMasters c.network) : c.Enslaved := by
  have hold : ∀ i p id, c.ports.port? i = some p → p.endpoint = .device id →
      ∃ q, b.ports.port? i = some q ∧ q.endpoint = .device id := by
    intro i p id hp hid
    obtain ⟨q, hq, hfixed⟩ := PortTable.exists_of_fixed (hports i) hp
    have hendpoint : q.endpoint = p.endpoint := congrArg (·.2.2) hfixed
    exact ⟨q, hq, hendpoint.trans hid⟩
  refine ⟨?_, ?_⟩
  · intro i p id hp hid
    obtain ⟨q, hq, hid⟩ := hold i p id hp hid
    obtain ⟨d, hd, hmaster⟩ := hb.master i q id hq hid
    obtain ⟨e, he, hsame⟩ := hnetwork id d hd
    exact ⟨e, he, by rw [hsame, hmaster, hconfig]⟩
  · intro i j p q id hp hq hpid hqid
    obtain ⟨p', hp', hpid'⟩ := hold i p id hp hpid
    obtain ⟨q', hq', hqid'⟩ := hold j q id hq hqid
    exact hb.apart i j p' q' id hp' hq' hpid' hqid'

/-- A device that is enslaved had no master, so it is the device of no port yet. -/
theorem Enslaved.enslaved (hb : b.Enslaved) {i : PortIndex} {id : DeviceId} {d e : Device}
    (name : String) (ingress : IngressDefaults) (hd : b.network.device? id = some d)
    (he : d.enslave b.config.name = .ok e) :
    ({ b with
        ports := (b.ports.install i name (.device id) ingress).1
        network := b.network.modifyDevice id fun _ => e } : Bridge).Enslaved := by
  obtain ⟨hnone, hmaster⟩ := Device.enslave_eq_ok he
  have hfresh : ∀ j q k, b.ports.port? j = some q → q.endpoint = .device k → k ≠ id := by
    rintro j q k hq hk rfl
    obtain ⟨d', hd', hmaster'⟩ := hb.master j q k hq hk
    rw [hd] at hd'
    cases hd'
    rw [hnone] at hmaster'
    cases hmaster'
  refine ⟨?_, ?_⟩
  · intro j q k hq hk
    simp only [PortTable.port?_install] at hq
    simp only [Network.device?_modifyDevice]
    split at hq
    · cases hq
      have hk : k = id := (Endpoint.device.inj hk).symm
      subst hk
      exact ⟨e, by rw [if_pos rfl, hd]; rfl, hmaster⟩
    · rw [if_neg (hfresh j q k hq hk)]
      exact hb.master j q k hq hk
  · intro j k p q id' hp hq hpid hqid
    simp only [PortTable.port?_install] at hp hq
    split at hp
    · rename_i hij
      split at hq
      · rename_i hik
        exact hij.symm.trans hik
      · cases hp
        have hid : id' = id := (Endpoint.device.inj hpid).symm
        exact absurd hid (hfresh k q id' hq hqid)
    · split at hq
      · cases hq
        have hid : id' = id := (Endpoint.device.inj hqid).symm
        exact absurd hid (hfresh j p id' hp hpid)
      · exact hb.apart j k p q id' hp hq hpid hqid

/-- A device that is released is the device of no other port. -/
theorem Enslaved.released (hb : b.Enslaved) {i : PortIndex} {p : Port}
    (hp : b.ports.port? i = some p) :
    (({ b with ports := b.ports.clear i } : Bridge).releaseDevice p).Enslaved := by
  have hleft : ∀ j q, (b.ports.clear i).port? j = some q → i ≠ j ∧ b.ports.port? j = some q := by
    intro j q hq
    rw [PortTable.port?_clear] at hq
    split at hq
    · cases hq
    · exact ⟨‹_›, hq⟩
  have hcleared : ({ b with ports := b.ports.clear i } : Bridge).Enslaved := by
    refine ⟨?_, ?_⟩
    · intro j q id hq hid
      exact hb.master j q id (hleft j q hq).2 hid
    · intro j k q r id hq hr hqid hrid
      exact hb.apart j k q r id (hleft j q hq).2 (hleft k r hr).2 hqid hrid
  unfold releaseDevice
  split
  · rename_i id hid
    refine ⟨?_, hcleared.apart⟩
    intro j q k hq hk
    have hne : k ≠ id := by
      rintro rfl
      obtain ⟨hij, hq⟩ := hleft j q hq
      exact hij (hb.apart i j p q k hp hq (Port.endpoint_of_device? hid) hk)
    simp only [Network.device?_modifyDevice, if_neg hne]
    exact hcleared.master j q k hq hk
  · exact hcleared

theorem Enslaved.effects (hb : b.Enslaved) (h : Effects b c) : c.Enslaved := by
  induction h with
  | refl => exact hb
  | tail _ hstep ih =>
    cases hstep with
    | unseen h =>
      refine ih.same h.config h.ports ?_
      rw [h.network]
      exact (Network.Alike.refl _).sameMasters
    | enslaved name ingress _ hd he => exact ih.enslaved name ingress hd he
    | released hp => exact ih.released hp

/-- An event is made of effects, or it leaves the ports and the masters of their devices alone. -/
theorem next_cases (hs : b.Sound) {e : Event} (hleaves : b.LeavesMasters e) :
    Effects b (b.next e) ∨ (b.next e).config = b.config ∧
      (∀ i, ((b.next e).ports.port? i).map Port.fixed = (b.ports.port? i).map Port.fixed) ∧
      b.network.SameMasters (b.next e).network := by
  cases e with
  | receive h f =>
    obtain ⟨t, net, cs, he, -, hnet⟩ := receive_fst b h f
    change _ ∨ (b.receive h f).1.config = b.config ∧
      (∀ i, ((b.receive h f).1.ports.port? i).map Port.fixed = (b.ports.port? i).map Port.fixed) ∧
      b.network.SameMasters (b.receive h f).1.network
    rw [he]
    exact Or.inr ⟨rfl, fun _ => rfl, hnet.sameMasters⟩
  | network net => exact Or.inr ⟨rfl, fun _ => rfl, hleaves⟩
  | perform | request | wake | clock | trap => exact Or.inl (next_effects hs nofun nofun)

theorem Undisturbed.enslaved (hb : b.Undisturbed) : b.Enslaved := by
  induction hb with
  | create h => exact enslaved_of_create h
  | next e hb hleaves ih =>
    rcases next_cases hb.reachable.sound hleaves with h | ⟨hconfig, hports, hnetwork⟩
    · exact ih.effects h
    · exact ih.same hconfig hports hnetwork

theorem Enslaved.takes (hb : b.Enslaved) {i : PortIndex} {p : Port} (hp : b.ports.port? i = some p)
    (hwilling : b.network.Willing p.endpoint) : b.network.takes p.endpoint = true := by
  cases hendpoint : p.endpoint with
  | localStack => rfl
  | device id =>
    obtain ⟨d, hd, hmaster⟩ := hb.master i p id hp hendpoint
    have hframes := hwilling id d hendpoint hd
    unfold Network.takes
    simp only [hd, hframes, hmaster, Option.isNone_none, Option.isSome_some, Bool.and_self]

end Bridge

end VlanBridge
