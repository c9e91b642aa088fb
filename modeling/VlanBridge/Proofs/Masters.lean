import VlanBridge.Proofs.Accounts
import VlanBridge.Proofs.Enslavement
/-!
# Whose master the bridge is

As long as nobody else gives a device a master or takes it away, the bridge is the master of a device for
just as long as the device is that of a port. A device that has another master keeps it and never becomes
a port. So devices that refuse no frames of their own accord refuse none that the bridge sends.
-/

namespace VlanBridge

open VlanBridge.Net

namespace PortTable

variable {t u : PortTable} {id new : DeviceId}

/-- A port has the device. -/
def Uses (t : PortTable) (id : DeviceId) : Prop :=
  ∃ i p, t.port? i = some p ∧ p.endpoint = .device id

instance (t : PortTable) (id : DeviceId) : Decidable (t.Uses id) :=
  decidable_of_iff (∃ p ∈ t.list, p.endpoint = .device id) <| by
    simp only [mem_list, Uses]
    constructor
    · rintro ⟨p, ⟨i, hp⟩, hid⟩
      exact ⟨i, p, hp, hid⟩
    · rintro ⟨i, p, hp, hid⟩
      exact ⟨p, ⟨i, hp⟩, hid⟩

theorem uses_iff_of_fixed (h : ∀ i, (u.port? i).map Port.fixed = (t.port? i).map Port.fixed) :
    u.Uses id ↔ t.Uses id := by
  have hone : ∀ {t u : PortTable}, (∀ i, (u.port? i).map Port.fixed = (t.port? i).map Port.fixed) →
      u.Uses id → t.Uses id := by
    rintro t u h ⟨i, p, hp, hid⟩
    obtain ⟨q, hq, hfixed⟩ := exists_of_fixed (h i) hp
    have hendpoint : q.endpoint = p.endpoint := congrArg (·.2.2) hfixed
    exact ⟨i, q, hq, hendpoint.trans hid⟩
  exact ⟨hone h, hone fun i => (h i).symm⟩

theorem uses_install {i : PortIndex} (hi : t.port? i = none) (name : String)
    (ingress : IngressDefaults) :
    (t.install i name (.device new) ingress).1.Uses id ↔ id = new ∨ t.Uses id := by
  constructor
  · rintro ⟨j, p, hp, hid⟩
    rw [port?_install] at hp
    split at hp
    · cases hp
      exact Or.inl (Endpoint.device.inj hid).symm
    · exact Or.inr ⟨j, p, hp, hid⟩
  · rintro (rfl | ⟨j, p, hp, hid⟩)
    · exact ⟨i, _, (port?_install ..).trans (if_pos rfl), rfl⟩
    · have hij : i ≠ j := by
        rintro rfl
        rw [hi] at hp
        cases hp
      exact ⟨j, p, ((port?_install ..).trans (if_neg hij)).trans hp, hid⟩

theorem uses_clear {i : PortIndex} :
    (t.clear i).Uses id ↔ ∃ j p, i ≠ j ∧ t.port? j = some p ∧ p.endpoint = .device id := by
  constructor
  · rintro ⟨j, p, hp, hid⟩
    rw [port?_clear] at hp
    split at hp
    · cases hp
    · exact ⟨j, p, ‹_›, hp, hid⟩
  · rintro ⟨j, p, hij, hp, hid⟩
    exact ⟨j, p, ((port?_clear ..).trans (if_neg hij)).trans hp, hid⟩

theorem uses_clear_of_ne {i : PortIndex} {p : Port} (hp : t.port? i = some p)
    (hne : p.endpoint ≠ .device id) : (t.clear i).Uses id ↔ t.Uses id := by
  rw [uses_clear]
  constructor
  · rintro ⟨j, q, -, hq, hid⟩
    exact ⟨j, q, hq, hid⟩
  · rintro ⟨j, q, hq, hid⟩
    refine ⟨j, q, ?_, hq, hid⟩
    rintro rfl
    rw [hp] at hq
    cases hq
    exact hne hid

end PortTable

namespace Bridge

variable {b c : Bridge} {id : DeviceId} {first : Option String}

/-- The device has the master that it had at first, and no port has it; or it had no master at first, and
serves the bridge as a port. -/
def Respects (b : Bridge) (id : DeviceId) (first : Option String) : Prop :=
  ∃ d, b.network.device? id = some d ∧
    (d.master = first ∧ ¬ b.ports.Uses id ∨
      first = none ∧ d.master = some b.config.name ∧ b.ports.Uses id)

/-- The master that a device had when it was first there. -/
def firstMaster? (b : Bridge) (id : DeviceId) : List Event → Option (Option String)
  | [] => (b.network.device? id).map (·.master)
  | ev :: evs =>
    match b.network.device? id with
    | some d => some d.master
    | none => (b.next ev).firstMaster? id evs

/-! ### A device that is there -/

theorem Respects.same (hr : b.Respects id first) (hconfig : c.config = b.config)
    (hports : ∀ i, (c.ports.port? i).map Port.fixed = (b.ports.port? i).map Port.fixed)
    (hnetwork : b.network.SameMasters c.network) : c.Respects id first := by
  obtain ⟨d, hd, hmaster⟩ := hr
  obtain ⟨e, he, hsame⟩ := hnetwork id d hd
  refine ⟨e, he, ?_⟩
  rw [hsame, hconfig, PortTable.uses_iff_of_fixed hports]
  exact hmaster

theorem Respects.enslaved (hr : b.Respects id first) {i : PortIndex} {new : DeviceId} {d e : Device}
    (name : String) (ingress : IngressDefaults) (hi : b.ports.port? i = none)
    (hd : b.network.device? new = some d) (he : d.enslave b.config.name = .ok e) :
    ({ b with
        ports := (b.ports.install i name (.device new) ingress).1
        network := b.network.modifyDevice new fun _ => e } : Bridge).Respects id first := by
  obtain ⟨hnone, hbridge⟩ := Device.enslave_eq_ok he
  have huses : (b.ports.install i name (.device new) ingress).1.Uses id ↔ id = new ∨ b.ports.Uses id :=
    PortTable.uses_install hi name ingress
  obtain ⟨a, ha, hmaster⟩ := hr
  unfold Respects
  rw [Network.device?_modifyDevice, huses]
  by_cases hid : id = new
  · -- it had no master, so it was respected as one without
    subst hid
    cases hd.symm.trans ha
    have hfirst : first = none := by
      rcases hmaster with ⟨hfirst, -⟩ | ⟨hfirst, -, -⟩
      · exact hfirst.symm.trans hnone
      · exact hfirst
    rw [if_pos rfl, hd]
    exact ⟨e, rfl, Or.inr ⟨hfirst, hbridge, Or.inl rfl⟩⟩
  · rw [if_neg hid, or_iff_right hid]
    exact ⟨a, ha, hmaster⟩

theorem Respects.released (hb : b.Enslaved) (hr : b.Respects id first) {i : PortIndex} {p : Port}
    (hp : b.ports.port? i = some p) :
    (({ b with ports := b.ports.clear i } : Bridge).releaseDevice p).Respects id first := by
  obtain ⟨a, ha, hmaster⟩ := hr
  unfold releaseDevice
  split
  · rename_i old hold
    have hold := Port.endpoint_of_device? hold
    unfold Respects
    rw [Network.device?_modifyDevice]
    by_cases hid : id = old
    · -- it served the bridge through this port alone
      subst hid
      have hunused : ¬ (b.ports.clear i).Uses id := by
        rw [PortTable.uses_clear]
        rintro ⟨j, q, hij, hq, hqid⟩
        exact hij (hb.apart i j p q id hp hq hold hqid)
      have hfirst : first = none := by
        rcases hmaster with ⟨-, hnot⟩ | ⟨hfirst, -, -⟩
        · exact absurd ⟨i, p, hp, hold⟩ hnot
        · exact hfirst
      rw [if_pos rfl, ha]
      exact ⟨a.release, rfl, Or.inl ⟨hfirst.symm, hunused⟩⟩
    · have hne : p.endpoint ≠ .device id := by
        rw [hold]
        exact fun he => hid (Endpoint.device.inj he).symm
      rw [if_neg hid, PortTable.uses_clear_of_ne hp hne]
      exact ⟨a, ha, hmaster⟩
  · rename_i hlocal
    have hne : p.endpoint ≠ .device id := by
      intro he
      unfold Port.device? at hlocal
      rw [he] at hlocal
      cases hlocal
    unfold Respects
    rw [PortTable.uses_clear_of_ne hp hne]
    exact ⟨a, ha, hmaster⟩

theorem Respects.effects (hb : b.Enslaved) (hr : b.Respects id first) (h : Effects b c) :
    c.Respects id first := by
  induction h with
  | refl => exact hr
  | tail hbefore hstep ih =>
    have henslaved := hb.effects hbefore
    cases hstep with
    | unseen h =>
      refine ih.same h.config h.ports ?_
      rw [h.network]
      exact (Network.Alike.refl _).sameMasters
    | enslaved name ingress hi hd he => exact ih.enslaved name ingress hi hd he
    | released hp => exact ih.released henslaved hp

theorem Respects.next (hb : b.Undisturbed) (hr : b.Respects id first) {ev : Event}
    (hleaves : b.LeavesMasters ev) : (b.next ev).Respects id first := by
  rcases next_cases hb.reachable.sound hleaves with h | ⟨hconfig, hports, hnetwork⟩
  · exact hr.effects hb.enslaved h
  · exact hr.same hconfig hports hnetwork

theorem Respects.run (hb : b.Undisturbed) (hr : b.Respects id first) {events : List Event}
    (hleaves : ∀ m ∈ b.history events, m.before.LeavesMasters m.event) :
    (b.run events).Respects id first := by
  induction events generalizing b with
  | nil => exact hr
  | cons ev es ih =>
    have hnow := hleaves ⟨b, ev⟩ List.mem_cons_self
    exact ih (hb.next ev hnow) (hr.next hb hnow) fun m hm => hleaves m (List.mem_cons_of_mem _ hm)

/-! ### A device that comes in -/

theorem Effects.device?_none (h : Effects b c) (hnone : b.network.device? id = none) :
    c.network.device? id = none := by
  induction h with
  | refl => exact hnone
  | tail _ hstep ih =>
    cases hstep with
    | unseen h => rw [h.network, ih]
    | enslaved name ingress hi hd he =>
      simp only [Network.device?_modifyDevice, ih, Option.map_none, ite_self]
    | released hp =>
      unfold releaseDevice
      split
      · simp only [Network.device?_modifyDevice, ih, Option.map_none, ite_self]
      · exact ih

/-- A device comes in with the network, and then no port has it. -/
theorem Respects.of_new (hb : b.Undisturbed) (hnone : b.network.device? id = none) {ev : Event}
    {d : Device} (hd : (b.next ev).network.device? id = some d) : (b.next ev).Respects id d.master := by
  have hkept : (∀ h f, ev ≠ .receive h f) → (∀ net, ev ≠ .network net) → False := by
    intro hreceive hnetwork
    have heffects := next_effects hb.reachable.sound hreceive hnetwork
    cases (heffects.device?_none hnone).symm.trans hd
  cases ev with
  | network net =>
    refine ⟨d, hd, Or.inl ⟨rfl, ?_⟩⟩
    rintro ⟨i, p, hp, hid⟩
    obtain ⟨a, ha, -⟩ := hb.enslaved.master i p id hp hid
    rw [hnone] at ha
    cases ha
  | receive h f =>
    obtain ⟨t, net, cs, he, -, hnet⟩ := receive_fst b h f
    change (b.receive h f).1.network.device? id = some d at hd
    rw [he] at hd
    rcases hnet.device? id with ⟨-, hnone'⟩ | ⟨a, -, ha, -, -⟩
    · cases hnone'.symm.trans hd
    · cases hnone.symm.trans ha
  | perform | request | wake | clock | trap => exact (hkept nofun nofun).elim

theorem Respects.of_create {config : BridgeConfig} {network : Network}
    (h : Bridge.create config network = .ok b) {d : Device} (hd : b.network.device? id = some d) :
    b.Respects id d.master := by
  refine ⟨d, hd, Or.inl ⟨rfl, ?_⟩⟩
  rintro ⟨i, p, hp, hid⟩
  rw [endpoint_of_create h hp] at hid
  cases hid

theorem respects_run (hb : b.Undisturbed)
    (hfresh : ∀ d, b.network.device? id = some d → b.Respects id d.master) {events : List Event}
    (hleaves : ∀ m ∈ b.history events, m.before.LeavesMasters m.event)
    (hfirst : b.firstMaster? id events = some first) : (b.run events).Respects id first := by
  induction events generalizing b with
  | nil =>
    obtain ⟨d, hd, rfl⟩ := Option.map_eq_some_iff.1 hfirst
    exact hfresh d hd
  | cons ev es ih =>
    have hnow := hleaves ⟨b, ev⟩ List.mem_cons_self
    unfold firstMaster? at hfirst
    cases hd : b.network.device? id with
    | some d =>
      rw [hd] at hfirst
      cases hfirst
      exact (hfresh d hd).run hb hleaves
    | none =>
      rw [hd] at hfirst
      exact ih (hb.next ev hnow) (fun d => Respects.of_new hb hd)
        (fun m hm => hleaves m (List.mem_cons_of_mem _ hm)) hfirst

end Bridge

/-! ### Frames that are refused -/

/-- No device refuses frames of its own accord. -/
def Network.AllWilling (net : Network) : Prop := ∀ d ∈ net.devices, d.refusesFrames = none

instance (net : Network) : Decidable net.AllWilling :=
  inferInstanceAs (Decidable (∀ d ∈ net.devices, d.refusesFrames = none))

theorem Network.allWilling_iff {net : Network} :
    net.AllWilling ↔ ∀ id d, net.device? id = some d → d.refusesFrames = none := by
  unfold AllWilling device?
  constructor
  · intro h id d hd
    exact h d (Array.mem_of_getElem? hd)
  · intro h d hd
    obtain ⟨id, hid⟩ := Array.mem_iff_getElem?.1 hd
    exact h id d hid

theorem Device.refusesFrames_of_enslave {d e : Device} {bridge : String}
    (h : d.enslave bridge = .ok e) : e.refusesFrames = d.refusesFrames := by
  unfold enslave attachTo at h
  split at h
  · cases h
  · split at h
    · cases h
    · cases h
      rfl

namespace Network.AllWilling

variable {net other : Network}

theorem willing (h : net.AllWilling) (endpoint : Endpoint) : net.Willing endpoint :=
  fun id d _ hd => allWilling_iff.1 h id d hd

theorem alike (h : net.AllWilling) (halike : net.Alike other) : other.AllWilling :=
  allWilling_iff.2 fun id d hd => halike.willing (h.willing (.device id)) id d rfl hd

theorem modifyDevice (h : net.AllWilling) {id : DeviceId} {f : Device → Device}
    (hf : ∀ d, net.device? id = some d → (f d).refusesFrames = d.refusesFrames) :
    (net.modifyDevice id f).AllWilling := by
  refine allWilling_iff.2 fun i d hd => ?_
  rw [device?_modifyDevice] at hd
  split at hd
  · rename_i hi
    subst hi
    obtain ⟨e, he, rfl⟩ := Option.map_eq_some_iff.1 hd
    rw [hf e he]
    exact allWilling_iff.1 h i e he
  · exact allWilling_iff.1 h i d hd

end Network.AllWilling

namespace Bridge

variable {b c : Bridge}

theorem Effects.allWilling (hw : b.network.AllWilling) (h : Effects b c) : c.network.AllWilling := by
  induction h with
  | refl => exact hw
  | tail _ hstep ih =>
    cases hstep with
    | unseen h =>
      rw [h.network]
      exact ih
    | enslaved name ingress hi hd he =>
      refine ih.modifyDevice fun d hd' => ?_
      cases hd.symm.trans hd'
      exact Device.refusesFrames_of_enslave he
    | released hp =>
      unfold releaseDevice
      split
      · exact ih.modifyDevice fun _ _ => rfl
      · exact ih

theorem allWilling_next (hs : b.Sound) (hw : b.network.AllWilling) {ev : Event}
    (hnet : ∀ net, ev = .network net → net.AllWilling) : (b.next ev).network.AllWilling := by
  cases ev with
  | receive h f =>
    obtain ⟨t, net, cs, he, -, halike⟩ := receive_fst b h f
    change (b.receive h f).1.network.AllWilling
    rw [he]
    exact hw.alike halike
  | network net => exact hnet net rfl
  | perform | request | wake | clock | trap =>
    exact Effects.allWilling hw (next_effects hs nofun nofun)

theorem undisturbed_history (hb : b.Undisturbed) (hw : b.network.AllWilling) {events : List Event}
    (hleaves : ∀ m ∈ b.history events, m.before.LeavesMasters m.event)
    (hnet : ∀ net, .network net ∈ events → net.AllWilling) :
    ∀ m ∈ b.history events, m.before.Undisturbed ∧ m.before.network.AllWilling := by
  induction events generalizing b with
  | nil => exact fun m hm => absurd hm List.not_mem_nil
  | cons ev es ih =>
    intro m hm
    rcases List.mem_cons.1 hm with rfl | hm
    · exact ⟨hb, hw⟩
    · refine ih (hb.next ev (hleaves ⟨b, ev⟩ List.mem_cons_self)) ?_ ?_ ?_ m hm
      · refine allWilling_next hb.reachable.sound hw ?_
        rintro net rfl
        exact hnet net List.mem_cons_self
      · exact fun m hm => hleaves m (List.mem_cons_of_mem _ hm)
      · exact fun net h => hnet net (List.mem_cons_of_mem _ h)

/-- A frame is taken wherever it is sent, so it is not dropped for want of a port that takes it. -/
theorem taken_receive (hb : b.Enslaved) (hw : b.network.AllWilling) (h : Handle) (f : Frame) :
    (∀ e ∈ (b.receive h f).2.sent, e.accepted = true) ∧
      (b.receive h f).2.verdict ≠ .dropped .transmitFailed := by
  have hcourse := course_receive b h f
  generalize b.receive h f = o at hcourse ⊢
  cases hcourse with
  | unclassified hearly =>
    refine ⟨nofun, ?_⟩
    rintro ⟨⟩
    rcases hearly with hreason | hreason | hreason <;> cases hreason
  | trapped | notAllowed => exact ⟨nofun, nofun⟩
  | @sent p c g dst src r l flight after _ _ _ _ hl hflight hafter =>
    obtain ⟨cs, hsame⟩ := learnSource_fst b.enter.1 p c src
    rw [← hl] at hsame
    have htaken : ∀ e ∈ after.2, e.accepted = true := by
      intro e he
      rw [hafter, sendAll_snd] at he
      obtain ⟨q, hq, rfl⟩ := List.mem_map.1 he
      rw [hflight, hsame] at hq
      obtain ⟨i, -, hslot⟩ := List.mem_filterMap.1 hq
      rw [hsame]
      exact hb.takes hslot (hw.willing _)
    refine ⟨htaken, ?_⟩
    have hall : after.2.countP (·.accepted) = after.2.length := List.countP_eq_length.2 htaken
    dsimp only
    rw [verdictOf_eq, hall]
    split
    · exact nofun
    · rename_i hsome
      rw [if_neg fun hlength => hsome (List.eq_nil_of_length_eq_zero hlength)]
      exact nofun

/-- In every state of a run in which nobody else changes masters, a device that had no master at first has
the bridge as its master if it is the device of a port and none otherwise, and a device that had another
master at first keeps it and is no port's. So if no device refuses frames of its own accord, no frame that
is sent is refused and none is dropped for want of a port that takes it. -/
theorem masters_of_run {config : BridgeConfig} {network : Network}
    (hb : Bridge.create config network = .ok b) {events : List Event}
    (hleaves : ∀ m ∈ b.history events, m.before.LeavesMasters m.event) :
    let c := b.run events
    (∀ id first, b.firstMaster? id events = some first → ∃ d, c.network.device? id = some d ∧
      (first = none → (c.ports.Uses id → d.master = some config.name) ∧
        (¬ c.ports.Uses id → d.master = none)) ∧
      ∀ other, first = some other → d.master = some other ∧ ¬ c.ports.Uses id) ∧
    (network.AllWilling → (∀ net, .network net ∈ events → net.AllWilling) →
      c.counters.txErrors = 0 ∧ ∀ r ∈ b.receptions events,
        (∀ e ∈ r.sent, e.accepted = true) ∧ r.verdict ≠ .dropped .transmitFailed) := by
  intro c
  have hundisturbed : b.Undisturbed := .create hb
  have hname : c.config.name = config.name := by
    rw [config_run, create_eq_ok hb]
  refine ⟨?_, ?_⟩
  · intro id first hfirst
    obtain ⟨d, hd, hmaster⟩ :=
      respects_run hundisturbed (fun d => Respects.of_create hb) hleaves hfirst
    rw [hname] at hmaster
    refine ⟨d, hd, ?_, ?_⟩
    · rintro rfl
      rcases hmaster with ⟨hnone, hnot⟩ | ⟨-, hbridge, huses⟩
      · exact ⟨fun huses => absurd huses hnot, fun _ => hnone⟩
      · exact ⟨fun _ => hbridge, fun hnot => absurd huses hnot⟩
    · rintro other rfl
      rcases hmaster with hkept | ⟨hfirst, -⟩
      · exact hkept
      · cases hfirst
  · intro hwilling hnet
    have hstart : b.network.AllWilling := by
      rw [create_eq_ok hb]
      exact hwilling
    have htaken : ∀ r ∈ b.receptions events,
        (∀ e ∈ r.sent, e.accepted = true) ∧ r.verdict ≠ .dropped .transmitFailed := by
      intro r hr
      obtain ⟨m, hm, hreception⟩ := List.mem_filterMap.1 hr
      obtain ⟨hbefore, hw⟩ := undisturbed_history hundisturbed hstart hleaves hnet m hm
      unfold Moment.reception? at hreception
      split at hreception
      · cases hreception
        exact taken_receive hbefore.enslaved hw _ _
      · cases hreception
    refine ⟨?_, htaken⟩
    have hnone : Account.refused.total (b.receptions events) = 0 := by
      rw [Account.total_refused, List.countP_eq_zero]
      intro e he
      obtain ⟨r, hr, he⟩ := List.mem_flatMap.1 he
      rw [(htaken r hr).1 e he]
      exact Bool.false_ne_true
    have hreading := reading_run hb events .refused
    rw [hnone] at hreading
    exact (Account.get_eq_reading rfl _).trans hreading

/-- Of three devices the second has another master and is refused. The others become ports and are sent a
frame; then the first one's port is deleted. -/
theorem masters_of_run_released :
    let network := ((beside ["eth0", "eth1", "eth2"]).network.attach 1 "br9").1
    let b : Bridge := { beside [] with network }
    let hello := Frame.ethernet Mac.broadcast ⟨2, 0, 0, 0, 0, 9⟩ EtherType.ipv4 []
    let events : List Event := [.request (.portAdd "eth0" {}), .request (.portAdd "eth1" {}),
      .request (.portAdd "eth2" {}), .receive ⟨0, 1⟩ hello, .request (.portDel "eth0")]
    let c := b.run events
    Bridge.create {} network = .ok b ∧ (b.receptions events).map (·.verdict) = [.delivered 2] ∧
      c.counters.txErrors = 0 ∧ (∃ d, c.network.device? 0 = some d ∧ d.master = none) ∧
      (∃ d, c.network.device? 1 = some d ∧ d.master = some "br9") ∧
      ∃ d, c.network.device? 2 = some d ∧ d.master = some "ubr0" := by
  intro network b hello events c
  have hb : Bridge.create {} network = .ok b := rfl
  have hleaves : ∀ m ∈ b.history events, m.before.LeavesMasters m.event := by
    simp [events, history, LeavesMasters]
  have hfirst : b.firstMaster? 0 events = some none ∧ b.firstMaster? 1 events = some (some "br9") ∧
      b.firstMaster? 2 events = some none := by decide +kernel
  have hverdict : (b.receptions events).map (·.verdict) = [.delivered 2] := by decide +kernel
  have huses : ¬ c.ports.Uses 0 ∧ c.ports.Uses 2 := by decide +kernel
  obtain ⟨hmasters, htaken⟩ := masters_of_run hb hleaves
  have hc : b.run events = c := rfl
  have herrors := (htaken (by decide +kernel) (by simp [events])).1
  rw [hc] at herrors
  obtain ⟨d₀, hd₀, hnone, -⟩ := hmasters 0 _ hfirst.1
  obtain ⟨d₁, hd₁, -, hother⟩ := hmasters 1 _ hfirst.2.1
  obtain ⟨d₂, hd₂, hbridge, -⟩ := hmasters 2 _ hfirst.2.2
  exact ⟨hb, hverdict, herrors, ⟨d₀, hd₀, (hnone rfl).2 huses.1⟩, ⟨d₁, hd₁, (hother _ rfl).1⟩,
    d₂, hd₂, (hbridge rfl).1 huses.2⟩

end Bridge

end VlanBridge
