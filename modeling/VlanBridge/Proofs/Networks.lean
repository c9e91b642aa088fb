import VlanBridge.Port
/-!
# Handing frames over

A bridge knows a device by how it is set up: its name, its master, what it refuses. How many frames a
device has sent so far, and which, makes no difference to it. `Network.Alike` leaves that out; a frame
that is handed over changes nothing else.
-/

namespace VlanBridge

open VlanBridge.Net

namespace Device

/-- A device without the frames that it has sent. -/
def setup (d : Device) : Device := { d with sent := [], txFrames := 0, txRejected := 0 }

theorem setup_transmit (d : Device) (f : Frame) : (d.transmit f).1.setup = d.setup := by
  unfold transmit
  split <;> rfl

theorem setup_enslave {d e : Device} (h : e.setup = d.setup) (bridge : String) :
    (∃ reason, d.enslave bridge = .error reason ∧ e.enslave bridge = .error reason) ∨
      ∃ d' e', d.enslave bridge = .ok d' ∧ e.enslave bridge = .ok e' ∧ e'.setup = d'.setup := by
  have hname : e.name = d.name := congrArg (·.name) h
  have hmaster : e.master = d.master := congrArg (·.master) h
  have hrefuses : e.refusesMaster = d.refusesMaster := congrArg (·.refusesMaster) h
  unfold enslave attachTo
  rw [hname, hmaster, hrefuses]
  cases d.refusesMaster with
  | some reason => exact Or.inl ⟨_, rfl, rfl⟩
  | none =>
    cases d.master with
    | some master => exact Or.inl ⟨_, rfl, rfl⟩
    | none =>
      refine Or.inr ⟨_, _, rfl, rfl, ?_⟩
      simp only [setup, Device.mk.injEq] at h ⊢
      simp only [h, and_self]

theorem setup_release {d e : Device} (h : e.setup = d.setup) : e.release.setup = d.release.setup :=
  congrArg (fun s : Device => { s with master := none }) h

end Device

namespace Network

/-- Whether a frame is taken where it is handed over. -/
def takes (net : Network) : Endpoint → Bool
  | .localStack => true
  | .device id =>
    match net.device? id with
    | some d => d.refusesFrames.isNone && d.master.isSome
    | none => false

/-- The network after a frame has been handed over. -/
def handed (net : Network) (endpoint : Endpoint) (f : Frame) : Network :=
  match endpoint with
  | .localStack => net.deliverLocally f
  | .device id => (net.transmit id f).1

/-- Two networks differ at most in the frames that have been sent. -/
structure Alike (net other : Network) : Prop where
  registry : other.registry = net.registry
  devices : ∀ id, (other.device? id).map Device.setup = (net.device? id).map Device.setup

variable {net other : Network}

theorem Alike.refl (net : Network) : net.Alike net := ⟨rfl, fun _ => rfl⟩

theorem Alike.symm (h : net.Alike other) : other.Alike net :=
  ⟨h.registry.symm, fun id => (h.devices id).symm⟩

theorem Alike.trans {third : Network} (h : net.Alike other) (k : other.Alike third) :
    net.Alike third :=
  ⟨k.registry.trans h.registry, fun id => (k.devices id).trans (h.devices id)⟩

theorem Alike.lookup (h : net.Alike other) (name : String) : other.lookup name = net.lookup name := by
  unfold Network.lookup
  rw [h.registry]

theorem Alike.device? (h : net.Alike other) (id : DeviceId) :
    net.device? id = none ∧ other.device? id = none ∨
      ∃ d e, net.device? id = some d ∧ other.device? id = some e ∧ e.setup = d.setup := by
  have hsetup := h.devices id
  cases hd : net.device? id with
  | none =>
    cases he : other.device? id with
    | none => exact Or.inl ⟨rfl, rfl⟩
    | some e =>
      rw [hd, he] at hsetup
      cases hsetup
  | some d =>
    cases he : other.device? id with
    | none =>
      rw [hd, he] at hsetup
      cases hsetup
    | some e =>
      rw [hd, he] at hsetup
      exact Or.inr ⟨d, e, rfl, rfl, Option.some.inj hsetup⟩

theorem Alike.modifyDevice (h : net.Alike other) {id : DeviceId} {f g : Device → Device}
    (hfg : ∀ d e, net.device? id = some d → other.device? id = some e → e.setup = d.setup →
      (g e).setup = (f d).setup) :
    (net.modifyDevice id f).Alike (other.modifyDevice id g) := by
  refine ⟨h.registry, ?_⟩
  intro i
  simp only [device?_modifyDevice]
  by_cases hi : i = id
  · subst hi
    simp only [if_true]
    rcases h.device? i with ⟨hd, he⟩ | ⟨d, e, hd, he, hs⟩
    · rw [hd, he]
      rfl
    · rw [hd, he]
      exact congrArg some (hfg d e hd he hs)
  · simp only [hi, if_false]
    exact h.devices i

theorem Alike.takes (h : net.Alike other) (endpoint : Endpoint) :
    other.takes endpoint = net.takes endpoint := by
  cases endpoint with
  | localStack => rfl
  | device id =>
    unfold Network.takes
    rcases h.device? id with ⟨hd, he⟩ | ⟨d, e, hd, he, hs⟩
    · simp only [hd, he]
    · have hframes : e.refusesFrames = d.refusesFrames := congrArg (·.refusesFrames) hs
      have hmaster : e.master = d.master := congrArg (·.master) hs
      simp only [hd, he, hframes, hmaster]

/-- Handing over a frame changes nothing but the frames that have been sent. -/
theorem alike_handed (net : Network) (endpoint : Endpoint) (f : Frame) :
    net.Alike (net.handed endpoint f) := by
  unfold handed
  cases endpoint with
  | localStack => exact ⟨rfl, fun _ => rfl⟩
  | device id =>
    simp only [transmit]
    cases hd : net.device? id with
    | none => exact Alike.refl net
    | some d =>
      refine ⟨rfl, ?_⟩
      intro i
      simp only [device?_modifyDevice]
      by_cases hi : i = id
      · subst hi
        simp only [if_true, hd, Option.map_some, Device.setup_transmit]
      · simp only [hi, if_false]

/-- Handing over a frame changes nothing of who takes the next one. -/
theorem takes_handed (net : Network) (endpoint other : Endpoint) (f : Frame) :
    (net.handed endpoint f).takes other = net.takes other := (alike_handed net endpoint f).takes other

theorem transmit_snd (net : Network) (id : DeviceId) (f : Frame) :
    (net.transmit id f).2 = net.takes (.device id) := by
  simp only [transmit, takes]
  cases net.device? id with
  | none => rfl
  | some d =>
    simp only [Device.transmit]
    cases d.refusesFrames with
    | some reason => rfl
    | none => cases d.master <;> rfl

end Network

end VlanBridge
