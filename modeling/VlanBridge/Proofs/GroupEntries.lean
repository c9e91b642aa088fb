import VlanBridge.Proofs.AddressTexts
import VlanBridge.Proofs.PortDeletions
import VlanBridge.Proofs.Refreshes
/-!
# The addresses of entries

The entry of a frame is looked up by an address that `destination` makes out of the frame: a MAC address
but not the broadcast address, or an IP group. These are the destinations (`Address.IsDestination`), and
each of them is the destination of some frame. Learned entries are under destinations. An entry that is
added by hand is under whatever address it was added, as no IP address is asked whether it is a group.
-/

namespace VlanBridge

open VlanBridge.Net

namespace Net

/-- The octets in which an address is sent. -/
def Ipv4.octets (ip : Ipv4) : List UInt8 := [ip.o0, ip.o1, ip.o2, ip.o3]

theorem Ipv4.ofOctets?_octets (ip : Ipv4) : Ipv4.ofOctets? ip.octets = some ip := rfl

/-- The octets in which an address is sent, the high octet of each group first. -/
def Ipv6.octets (ip : Ipv6) : List UInt8 :=
  ip.groups.flatMap fun g => [UInt8.ofNat (g.toNat / 256), UInt8.ofNat (g.toNat % 256)]

theorem Ipv6.ofOctets?_octets (ip : Ipv6) : Ipv6.ofOctets? ip.octets = some ip := by
  simp only [octets, groups, List.flatMap_cons, List.flatMap_nil, List.cons_append, List.nil_append,
    ofOctets?, group_halves]

end Net

/-! ### Destinations -/

namespace Address

/-- An address that frames can be sent to and that their entry is looked up by. -/
def IsDestination : Address → Prop
  | .mac m => m ≠ Mac.broadcast
  | .ipv4 ip => ip.isMulticast = true
  | .ipv6 ip => ip.isMulticast = true

instance : DecidablePred IsDestination
  | .mac m => inferInstanceAs (Decidable (m ≠ Mac.broadcast))
  | .ipv4 ip => inferInstanceAs (Decidable (ip.isMulticast = true))
  | .ipv6 ip => inferInstanceAs (Decidable (ip.isMulticast = true))

end Address

theorem isDestination_groupAddress {f : Frame} {dst : Mac} (hdst : dst ≠ Mac.broadcast) :
    (groupAddress f dst).IsDestination := by
  unfold groupAddress
  split
  · rename_i hgroup
    exact (Option.filter_eq_some_iff.1 hgroup).2
  · rename_i hgroup
    exact (Option.filter_eq_some_iff.1 hgroup).2
  · exact hdst

theorem isDestination_of_destination {f : Frame} {vid : Vid} {dst : Mac} {key : Key}
    (h : (destination f vid dst).1 = some key) : key.address.IsDestination := by
  unfold destination at h
  split at h
  · cases h
  · rename_i hbroadcast
    have hdst : dst ≠ Mac.broadcast := fun he => hbroadcast (beq_iff_eq.2 he)
    split at h
    · cases h
      exact isDestination_groupAddress hdst
    · cases h
      exact hdst

/-- A frame to an IP group goes to the group's entry under any group MAC address but the broadcast one. -/
theorem destination_of_group {f : Frame} {dst : Mac} (hdst : dst ≠ Mac.broadcast)
    (hgroup : dst.isGroup = true) (vid : Vid) :
    (destination f vid dst).1 = some ⟨vid, groupAddress f dst⟩ := by
  have hbroadcast : ¬ dst.isBroadcast = true := fun h => hdst (beq_iff_eq.1 h)
  unfold destination
  rw [if_neg hbroadcast, if_pos hgroup]

theorem destination_of_station {f : Frame} {dst : Mac} (hdst : dst ≠ Mac.broadcast)
    (hgroup : ¬ dst.isGroup = true) (vid : Vid) :
    (destination f vid dst).1 = some (Key.mac vid dst) := by
  have hbroadcast : ¬ dst.isBroadcast = true := fun h => hdst (beq_iff_eq.1 h)
  unfold destination
  rw [if_neg hbroadcast, if_neg hgroup]

/-- A MAC address that IP groups are sent to. -/
def Net.Mac.ipGroup : Mac := ⟨1, 0, 0x5e, 0, 0, 1⟩

/-- A frame to an address; the payload is no more than it takes to name an IP group. -/
def Frame.toward : Address → Frame
  | .mac m => ethernet m Mac.zero EtherType.dot1q []
  | .ipv4 ip => ethernet Mac.ipGroup Mac.zero EtherType.ipv4 (List.replicate 16 0 ++ ip.octets)
  | .ipv6 ip => ethernet Mac.ipGroup Mac.zero EtherType.ipv6 (List.replicate 24 0 ++ ip.octets)

theorem Frame.ipv4Dst?_toward (ip : Ipv4) : (toward (.ipv4 ip)).ipv4Dst? = some ip := rfl

theorem Frame.ipv4Dst?_toward_ipv6 (ip : Ipv6) : (toward (.ipv6 ip)).ipv4Dst? = none := rfl

theorem Frame.ipv6Dst?_toward (ip : Ipv6) : (toward (.ipv6 ip)).ipv6Dst? = some ip := by
  have htype : (toward (.ipv6 ip)).etherType? = some EtherType.ipv6 := rfl
  have hoctets : ((toward (.ipv6 ip)).payload.drop 24).take 16 = ip.octets := rfl
  rw [ipv6Dst?, if_pos htype, hoctets, Ipv6.ofOctets?_octets]

/-- Every destination is the destination of a frame. -/
theorem destination_toward {address : Address} (h : address.IsDestination) :
    ∃ dst, (Frame.toward address).dst? = some dst ∧
      ∀ vid, (destination (Frame.toward address) vid dst).1 = some ⟨vid, address⟩ := by
  have hip : Mac.ipGroup ≠ Mac.broadcast := by decide
  cases address with
  | mac m =>
    refine ⟨m, rfl, fun vid => ?_⟩
    by_cases hgroup : m.isGroup = true
    · exact destination_of_group h hgroup vid
    · exact destination_of_station h hgroup vid
  | ipv4 ip =>
    have hfilter : (Frame.toward (.ipv4 ip)).ipv4Dst?.filter (·.isMulticast) = some ip := by
      rw [Frame.ipv4Dst?_toward]
      exact Option.filter_eq_some_iff.2 ⟨rfl, h⟩
    have haddress : groupAddress (Frame.toward (.ipv4 ip)) Mac.ipGroup = .ipv4 ip := by
      unfold groupAddress
      rw [hfilter]
    refine ⟨Mac.ipGroup, rfl, fun vid => ?_⟩
    rw [destination_of_group hip rfl, haddress]
  | ipv6 ip =>
    have hfilter : (Frame.toward (.ipv6 ip)).ipv6Dst?.filter (·.isMulticast) = some ip := by
      rw [Frame.ipv6Dst?_toward]
      exact Option.filter_eq_some_iff.2 ⟨rfl, h⟩
    have haddress : groupAddress (Frame.toward (.ipv6 ip)) Mac.ipGroup = .ipv6 ip := by
      unfold groupAddress
      rw [hfilter, Frame.ipv4Dst?_toward_ipv6]
      rfl
    refine ⟨Mac.ipGroup, rfl, fun vid => ?_⟩
    rw [destination_of_group hip rfl, haddress]

/-- There is a frame whose entry is looked up by the key. -/
def Key.IsLookedUp (key : Key) : Prop :=
  ∃ f vid dst, Frame.dst? f = some dst ∧ (destination f vid dst).1 = some key

theorem Key.isLookedUp_iff {key : Key} : key.IsLookedUp ↔ key.address.IsDestination := by
  constructor
  · rintro ⟨f, vid, dst, -, hkey⟩
    exact isDestination_of_destination hkey
  · intro h
    obtain ⟨dst, hdst, hkey⟩ := destination_toward h
    exact ⟨_, key.vid, dst, hdst, hkey key.vid⟩

/-! ### Additions -/

namespace Fdb

variable {t : Fdb}

/-- A static entry is added to ports under an address that is not zero, unless there is another one. What
kind of address it is makes no difference. -/
theorem exists_addStatic_iff {key : Key} {ports : PortSet} {origin : Origin} {now : Int} :
    (∃ r, t.addStatic key ports origin now = .ok r) ↔ origin ≠ .dynamic ∧ ports ≠ ∅ ∧
      key.address ≠ .mac Mac.zero ∧ ∀ e, t.find? key = some e → e.origin = .dynamic := by
  constructor
  · rintro ⟨⟨u, replaced⟩, h⟩
    obtain ⟨hports, haddress⟩ := admits_of_addStatic h
    exact ⟨(addStatic_eq_ok h).1, hports, haddress, fun e he => dynamic_of_addStatic h he⟩
  · rintro ⟨horigin, hports, haddress, hdynamic⟩
    have hempty : ¬ ports.isEmpty = true := fun h => hports (PortSet.isEmpty_iff.1 h)
    unfold addStatic
    simp only [if_neg horigin, if_neg hempty, if_neg haddress]
    cases hfind : t.find? key with
    | none => exact ⟨_, rfl⟩
    | some e => exact ⟨_, if_pos (hdynamic e hfind)⟩

end Fdb

namespace Bridge

variable {b : Bridge}

theorem missingPort?_eq_none {ports : PortSet} :
    b.missingPort? ports = none ↔ ∀ i ∈ ports, b.ports.Holds i := by
  refine ⟨holds_of_missingPort?, fun h => List.find?_eq_none.2 fun i hi => ?_⟩
  obtain ⟨p, hp⟩ := PortTable.holds_iff.1 (h i (PortSet.mem_toList.1 hi))
  rw [hp]
  exact Bool.false_ne_true

theorem fdbAdd_eq_ok_iff (ht : b.fdb.Sorted) {key : Key} {ports : PortSet} {origin : Origin} :
    (b.fdbAdd key ports origin).2 = .ok () ↔ b.vlans.Has key.vid ∧ (∀ i ∈ ports, b.ports.Holds i) ∧
      origin ≠ .dynamic ∧ ports ≠ ∅ ∧ key.address ≠ .mac Mac.zero ∧
      ∀ e ∈ b.fdb.entries, e.key = key → e.origin = .dynamic := by
  have hfind : (∀ e, b.fdb.find? key = some e → e.origin = .dynamic) ↔
      ∀ e ∈ b.fdb.entries, e.key = key → e.origin = .dynamic := by
    simp only [ht.find?_eq_some_iff, and_imp]
  have hadd : (∃ r, b.fdb.addStatic key ports origin b.clock = .ok r) ↔ _ := Fdb.exists_addStatic_iff
  rw [← missingPort?_eq_none, ← hfind, ← hadd]
  unfold fdbAdd Learning.addStatic
  cases hv : b.vlans.require key.vid with
  | error e =>
    refine iff_of_false nofun ?_
    rintro ⟨hhas, -⟩
    obtain ⟨v, -, hok⟩ := hhas.require_eq
    cases hv.symm.trans hok
  | ok v =>
    rw [and_iff_right (VlanDb.require_eq_ok hv)]
    cases b.missingPort? ports with
    | some i => exact iff_of_false nofun fun h => nomatch h.1
    | none =>
      rw [and_iff_right rfl]
      cases b.fdb.addStatic key ports origin b.clock with
      | error e => exact iff_of_false nofun nofun
      | ok r => exact iff_of_true rfl ⟨r, rfl⟩

end Bridge

/-! ### Runs -/

/-- The key under which an event puts an entry by hand. -/
def Event.addedKey? : Event → Option Key
  | .perform op _ => op.addedKey?
  | .request r => r.addedKey?
  | .receive .. | .wake _ | .clock _ | .trap _ | .network _ => none

def Transit.Step.addedKey? : Transit.Step → Option Key
  | .event e => e.addedKey?
  | .pin | .drop _ => none

/-- A static entry after an event was there before, or else the event adds it. -/
theorem Bridge.static_inherited_or_added {b : Bridge} {ev : Event} {e : Entry}
    (he : e ∈ (b.next ev).fdb.entries) (hstatic : e.origin ≠ .dynamic) :
    (∃ d ∈ b.fdb.entries, d.key = e.key ∧ d.origin = e.origin) ∨ ev.addedKey? = some e.key := by
  have hperform : ∀ op : Operation, op.IsControl → e ∈ (b.perform op).1.fdb.entries →
      (∃ d ∈ b.fdb.entries, d.key = e.key ∧ d.origin = e.origin) ∨ op.addedKey? = some e.key := by
    intro op hop he
    rcases inherited_or_added hop he with ⟨d, hd, hshrunk⟩ | ⟨-, hkey⟩
    · exact Or.inl ⟨d, hd, hshrunk.key.symm, hshrunk.origin.symm⟩
    · exact Or.inr hkey
  cases ev with
  | perform op control => exact hperform op control he
  | request r =>
    change e ∈ (b.handle r).1.fdb.entries at he
    rw [handle_fst] at he
    cases hop : b.operation? r with
    | none =>
      rw [hop] at he
      exact Or.inl ⟨e, he, rfl, rfl⟩
    | some op =>
      rw [hop] at he
      obtain ⟨hcontrol, hkey⟩ := operation?_eq_some hop
      rcases hperform op hcontrol he with hold | hnew
      · exact Or.inl hold
      · exact Or.inr (hkey.symm.trans hnew)
  | receive h f =>
    obtain ⟨t, net, cs, hfst, htaught, -⟩ := receive_fst b h f
    change e ∈ (b.receive h f).1.fdb.entries at he
    rw [hfst] at he
    cases htaught with
    | nothing => exact Or.inl ⟨e, he, rfl, rfl⟩
    | source src hc hr =>
      rcases Fdb.mem_learn he with ⟨d, hd, hkey, horigin, -⟩ | ⟨-, horigin, -⟩
      · exact Or.inl ⟨d, hd, hkey.symm, horigin.symm⟩
      · exact absurd horigin hstatic
  | wake now =>
    obtain ⟨d, hd, hshrunk⟩ := (emptied_wake b now).entries e he
    exact Or.inl ⟨d, hd, hshrunk.key.symm, hshrunk.origin.symm⟩
  | clock | trap | network => exact Or.inl ⟨e, he, rfl, rfl⟩

namespace Transit

variable {s : Transit}

theorem static_inherited_or_added {step : Step} {e : Entry}
    (he : e ∈ (s.next step).bridge.fdb.entries) (hstatic : e.origin ≠ .dynamic) :
    (∃ d ∈ s.bridge.fdb.entries, d.key = e.key ∧ d.origin = e.origin) ∨
      step.addedKey? = some e.key := by
  cases step with
  | event ev => exact Bridge.static_inherited_or_added he hstatic
  | pin => exact Or.inl ⟨e, he, rfl, rfl⟩
  | drop h =>
    unfold Transit.next at he
    simp only at he
    split at he <;> exact Or.inl ⟨e, he, rfl, rfl⟩

/-- A static entry after a run was there before it, or else a step of the run adds it. -/
theorem static_inherited_or_added_run {steps : List Step} {e : Entry}
    (he : e ∈ (s.run steps).bridge.fdb.entries) (hstatic : e.origin ≠ .dynamic) :
    (∃ d ∈ s.bridge.fdb.entries, d.key = e.key ∧ d.origin = e.origin) ∨
      ∃ step ∈ steps, step.addedKey? = some e.key := by
  induction steps generalizing s with
  | nil => exact Or.inl ⟨e, he, rfl, rfl⟩
  | cons step steps ih =>
    rcases ih he with ⟨d, hd, hkey, horigin⟩ | ⟨later, hlater, hkey⟩
    · rw [← hkey]
      rw [← horigin] at hstatic
      rcases static_inherited_or_added hd hstatic with ⟨a, ha, hakey, haorigin⟩ | hadded
      · exact Or.inl ⟨a, ha, hakey, haorigin.trans horigin⟩
      · exact Or.inr ⟨step, List.mem_cons_self .., hadded⟩
    · exact Or.inr ⟨later, List.mem_cons_of_mem _ hlater, hkey⟩

/-- A learned entry is under the address of a station. -/
theorem Reachable.isDestination_of_dynamic (hs : s.Reachable) {e : Entry}
    (he : e ∈ s.bridge.fdb.entries) (hdynamic : e.origin = .dynamic) :
    e.key.address.IsDestination := by
  obtain ⟨m, i, haddress, hgroup, -, -⟩ := (hs.wellFormed.entries e he).dynamic hdynamic
  rw [haddress]
  rintro rfl
  cases hgroup

/-- The entries of a bridge that no frame is looked up by are static ones that were added by hand. If only
keys of destinations are added, every entry is under a key that some frame is looked up by. But an addition
succeeds under any other key as well: the kind of the address and its range are not asked for. -/
theorem looked_up_if_added_to_destinations {config : BridgeConfig} {network : Network} {b : Bridge}
    (hb : Bridge.create config network = .ok b) (steps : List Step) :
    let c := (({ bridge := b } : Transit).run steps).bridge
    (∀ key : Key, key.IsLookedUp ↔ key.address.IsDestination) ∧
    (∀ e ∈ c.fdb.entries, ¬ e.key.IsLookedUp →
      e.origin ≠ .dynamic ∧ ∃ step ∈ steps, step.addedKey? = some e.key) ∧
    ((∀ step ∈ steps, ∀ key ∈ step.addedKey?, key.address.IsDestination) →
      ∀ e ∈ c.fdb.entries, e.key.address.IsDestination ∧ e.key.IsLookedUp) ∧
    ∀ key ports origin, (c.fdbAdd key ports origin).2 = .ok () ↔
      c.vlans.Has key.vid ∧ (∀ i ∈ ports, c.ports.Holds i) ∧ origin ≠ .dynamic ∧ ports ≠ ∅ ∧
        key.address ≠ .mac Mac.zero ∧ ∀ e ∈ c.fdb.entries, e.key = key → e.origin = .dynamic := by
  intro c
  have hs : (({ bridge := b } : Transit).run steps).Reachable := (Reachable.create hb).run steps
  have hempty : b.fdb.entries = [] := by rw [Bridge.create_eq_ok hb]
  have hadded : ∀ e ∈ c.fdb.entries, e.origin ≠ .dynamic →
      ∃ step ∈ steps, step.addedKey? = some e.key := by
    intro e he hstatic
    rcases static_inherited_or_added_run he hstatic with ⟨d, hd, -⟩ | h
    · have hd : d ∈ b.fdb.entries := hd
      rw [hempty] at hd
      cases hd
    · exact h
  refine ⟨fun _ => Key.isLookedUp_iff, ?_, ?_, fun _ _ _ =>
    Bridge.fdbAdd_eq_ok_iff hs.wellFormed.sorted⟩
  · intro e he hdead
    have hstatic : e.origin ≠ .dynamic :=
      fun hdynamic => hdead (Key.isLookedUp_iff.2 (hs.isDestination_of_dynamic he hdynamic))
    exact ⟨hstatic, hadded e he hstatic⟩
  · intro hsteps e he
    have haddress : e.key.address.IsDestination := by
      by_cases hdynamic : e.origin = .dynamic
      · exact hs.isDestination_of_dynamic he hdynamic
      · obtain ⟨step, hstep, hkey⟩ := hadded e he hdynamic
        exact hsteps step hstep e.key hkey
    exact ⟨haddress, Key.isLookedUp_iff.2 haddress⟩

/-- An IP group and a MAC group are added, and a station is heard. -/
theorem looked_up_if_added_to_destinations_groups :
    let ospf : Key := ⟨Vid.zero, .ipv4 (.ofNats 224 0 0 5)⟩
    let bridges := Key.mac Vid.zero ⟨1, 0x80, 0xc2, 0, 0, 0⟩
    let hello := Frame.ethernet Mac.broadcast ⟨2, 0, 0, 0, 0, 9⟩ EtherType.ipv4 []
    let steps : List Step := [.event (.request (.portAdd "eth0" {})),
      .event (.request (.fdbAdd ospf ["eth0"] .user)),
      .event (.request (.fdbAdd bridges ["eth0"] .external)), .pin, .event (.receive ⟨1, 1⟩ hello)]
    let c := (({ bridge := Bridge.beside ["eth0"] } : Transit).run steps).bridge
    (∀ step ∈ steps, ∀ key ∈ step.addedKey?, key.address.IsDestination) ∧ c.fdb.size = 3 ∧
      (∀ e ∈ c.fdb.entries, e.key.address.IsDestination ∧ e.key.IsLookedUp) ∧
      (c.fdbAdd ospf (PortSet.singleton 1) .user).2 ≠ .ok () := by
  intro ospf bridges hello steps c
  have hsteps : ∀ step ∈ steps, ∀ key ∈ step.addedKey?, key.address.IsDestination := by
    decide +kernel
  obtain ⟨hsize, htaken⟩ : c.fdb.size = 3 ∧
      ∃ e ∈ c.fdb.entries, e.key = ospf ∧ e.origin ≠ .dynamic := by decide +kernel
  obtain ⟨-, -, hlooked, hadd⟩ :=
    looked_up_if_added_to_destinations (Bridge.create_beside ["eth0"]) steps
  refine ⟨hsteps, hsize, hlooked hsteps, fun hok => ?_⟩
  obtain ⟨e, he, hkey, hstatic⟩ := htaken
  exact hstatic (((hadd ospf _ _).1 hok).2.2.2.2.2 e he hkey)

/-- The address of a host and the broadcast address are added like groups. No frame is looked up by them. -/
theorem not_looked_up_after_additions :
    let host : Key := ⟨Vid.zero, .ipv4 (.ofNats 10 0 0 1)⟩
    let everyone := Key.mac Vid.zero Mac.broadcast
    let s := (({ bridge := Bridge.beside ["eth0"] } : Transit).run
      [.event (.request (.portAdd "eth0" {})), .event (.request (.fdbAdd host ["eth0"] .user)),
        .event (.request (.fdbAdd everyone ["eth0"] .user))])
    s.Reachable ∧ (s.bridge.fdb.entries.map fun e => (e.key, e.origin)) =
        [(everyone, .user), (host, .user)] ∧
      ¬ host.IsLookedUp ∧ ¬ everyone.IsLookedUp := by
  intro host everyone s
  have hhost : ¬ host.address.IsDestination := by decide
  have heveryone : ¬ everyone.address.IsDestination := by decide
  exact ⟨(Reachable.create (Bridge.create_beside _)).run _, by decide +kernel,
    fun h => hhost (Key.isLookedUp_iff.1 h), fun h => heveryone (Key.isLookedUp_iff.1 h)⟩

end Transit

end VlanBridge
