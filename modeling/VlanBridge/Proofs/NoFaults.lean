import VlanBridge.Proofs.ControlAccess
/-!
# No access fails

The way of a frame and the control channel as a machine does them. Whatever frame comes in by whatever
handle, and whatever is asked for, all octets, words and slots that a bridge uses are there: in every
state that it can come into, the machine does what the bridge does (`no_access_fails`).
-/

namespace VlanBridge

open VlanBridge.Net

/-! ### Destinations -/

def groupAddressChecked (f : Frame) (dst : Mac) : Access Address := do
  let v4 ← f.ipv4DstChecked
  match v4.filter (·.isMulticast) with
  | some group => return .ipv4 group
  | none =>
    let v6 ← f.ipv6DstChecked
    match v6.filter (·.isMulticast) with
    | some group => return .ipv6 group
    | none => return .mac dst

def destinationChecked (f : Frame) (vid : Vid) (dst : Mac) : Access (Option Key × FloodClass) := do
  if dst.isBroadcast then return (none, .broadcast)
  else if dst.isGroup then
    let address ← groupAddressChecked f dst
    return (some ⟨vid, address⟩, .multicast)
  else return (some (Key.mac vid dst), .unicast)

theorem groupAddressChecked_eq (f : Frame) (dst : Mac) :
    groupAddressChecked f dst = pure (groupAddress f dst) := by
  unfold groupAddressChecked groupAddress
  simp only [Frame.ipv4DstChecked_eq, Frame.ipv6DstChecked_eq, pure_bind]
  cases f.ipv4Dst?.filter (·.isMulticast) with
  | some group => rfl
  | none =>
    cases f.ipv6Dst?.filter (·.isMulticast) with
    | some group => rfl
    | none => rfl

@[simp] theorem destinationChecked_eq (f : Frame) (vid : Vid) (dst : Mac) :
    destinationChecked f vid dst = pure (destination f vid dst) := by
  unfold destinationChecked destination
  split
  · rfl
  · split
    · rw [groupAddressChecked_eq, pure_bind]
    · rfl

namespace Bridge

/-! ### The way of a frame -/

def learnSourceChecked (b : Bridge) (p : Port) (c : Classification) (src : Mac) : Access Bridge := do
  match c.record with
  | some r =>
    if p.ingress.learning && r.vlan.learning then
      let (s, _) ← b.toLearning.learnChecked src c.vid p.index.val b.clock
      return b.withLearning s
    else return b
  | none => return b

def resolveChecked (b : Bridge) (v : Vlan) (vid : Vid) (f : Frame) (dst : Mac) :
    Access (PortSet × Counter) := do
  let (key, flood) ← destinationChecked f vid dst
  match key with
  | some key =>
    match b.fdb.lookup key v.routers with
    | some ports => return (ports, if key.address.isGroup then .groupHits else .unicastHits)
    | none => return (v.flood flood, .flooded)
  | none => return (v.flood flood, .flooded)

def routeChecked (b : Bridge) (p : Port) (r : VlanRecord) (vid : Vid) (f : Frame) (dst : Mac) :
    Access (Bridge × Admission) := do
  let (meant, counter) ← b.resolveChecked r.vlan vid f dst
  let b := b.count counter
  let targets := b.reachable p r.vlan meant
  if targets.isEmpty then return (b, .dropped .noDestination)
  else
    let ns ← targets.membersAt
    return (b, .forward ⟨r.serial, r.vlan.vid, f, ns.filterMap b.ports.get?⟩)

def assessFromChecked (b : Bridge) (p : Port) (f : Frame) (dst src : Mac) :
    Access (Bridge × Admission) := do
  match ← b.vlans.classifyChecked p f b.config.vlanProtocol with
  | .error reason => return (b, .dropped reason)
  | .ok (c, f) =>
    let b ← b.learnSourceChecked p c src
    if b.isTrapped p.index c.vid f then return (b, .trapped p.index c.vid f)
    else match c.record with
      | some r =>
        if c.allowed then b.routeChecked p r c.vid f dst
        else return (b, .dropped .vlanNotAllowed)
      | none => return (b, .dropped .vlanNotAllowed)

def assessChecked (b : Bridge) (h : Handle) (f : Frame) : Access (Bridge × Admission) := do
  match b.ports.resolve h with
  | .error _ => return (b, .dropped .portInactive)
  | .ok p =>
    let active ← b.ports.active.testAt p.index.val
    if !active then return (b, .dropped .portInactive)
    else if !f.hasHeader then return (b, .dropped .runt)
    else match f.dst?, f.src? with
      | some dst, some src => b.assessFromChecked p f dst src
      | _, _ => return (b, .dropped .runt)

def sendsTaggedChecked (b : Bridge) (serial n : Nat) : Access Bool :=
  match b.vlans.record? serial with
  | some v => v.tagged.testAt n
  | none => return false

def sendChecked (b : Bridge) (flight : Flight) (p : Port) : Access (Bridge × Emission) := do
  let tagged ← b.sendsTaggedChecked flight.serial p.index.val
  let f := flight.frame.withTag <|
    if tagged then some (egressTag b.config.vlanProtocol flight.vid flight.frame.tag) else none
  let (b, accepted) := b.handOver p f
  return (b, ⟨p.index, f, accepted⟩)

def sendAllChecked (flight : Flight) : List Port → Bridge → Access (Bridge × List Emission)
  | [], b => return (b, [])
  | p :: ps, b => do
    let (b, e) ← b.sendChecked flight p
    let (b, es) ← sendAllChecked flight ps b
    return (b, e :: es)

def receiveChecked (b : Bridge) (h : Handle) (f : Frame) : Access (Bridge × Reception) := do
  let (b, guard) := b.enter
  match ← b.assessChecked h f with
  | (b, .dropped reason) => return (b.leave guard (.dropped reason), { verdict := .dropped reason })
  | (b, .trapped ingress vid f) =>
    return ((b.count .trapped).leave guard .trapped,
      { verdict := .trapped, trapped := some (ingress, vid, f) })
  | (b, .forward flight) =>
    let (b, sent) ← sendAllChecked flight flight.targets b
    return (b.leave guard (verdictOf sent), { verdict := verdictOf sent, sent })

variable {b : Bridge}

@[simp] theorem learnSourceChecked_eq (b : Bridge) (p : Port) (c : Classification) (src : Mac) :
    b.learnSourceChecked p c src = pure (b.learnSource p c src) := by
  unfold learnSourceChecked learnSource
  cases c.record with
  | none => rfl
  | some r =>
    simp only [Learning.learnChecked_val, pure_bind]
    split <;> rfl

@[simp] theorem resolveChecked_eq (b : Bridge) (v : Vlan) (vid : Vid) (f : Frame) (dst : Mac) :
    b.resolveChecked v vid f dst = pure (b.resolve v vid f dst) := by
  unfold resolveChecked resolve
  rw [destinationChecked_eq, pure_bind]
  obtain ⟨key, flood⟩ := destination f vid dst
  cases key with
  | none => rfl
  | some key =>
    simp only
    cases b.fdb.lookup key v.routers with
    | none => rfl
    | some ports => rfl

theorem filterMap_get? (t : PortTable) (s : PortSet) :
    s.toNats.filterMap t.get? = s.toList.filterMap t.port? := by
  simp only [PortSet.toNats, List.filterMap_map, Function.comp_def, PortTable.get?_val]

@[simp] theorem routeChecked_eq (b : Bridge) (p : Port) (r : VlanRecord) (vid : Vid) (f : Frame)
    (dst : Mac) : b.routeChecked p r vid f dst = pure (b.route p r vid f dst) := by
  unfold routeChecked route
  simp only [resolveChecked_eq, pure_bind, PortSet.membersAt_eq, filterMap_get?]
  split <;> rfl

@[simp] theorem assessFromChecked_eq (b : Bridge) (p : Port) (f : Frame) (dst src : Mac) :
    b.assessFromChecked p f dst src = pure (b.assessFrom p f dst src) := by
  unfold assessFromChecked assessFrom
  simp only [VlanDb.classifyChecked_eq, pure_bind]
  cases b.vlans.classify p f b.config.vlanProtocol with
  | error reason => rfl
  | ok classified =>
    simp only [learnSourceChecked_eq, pure_bind]
    split
    · rfl
    · cases classified.1.record with
      | none => rfl
      | some r =>
        simp only [routeChecked_eq]
        split <;> rfl

@[simp] theorem assessChecked_eq (b : Bridge) (h : Handle) (f : Frame) :
    b.assessChecked h f = pure (b.assess h f) := by
  unfold assessChecked assess
  cases b.ports.resolve h with
  | error e => rfl
  | ok p =>
    simp only [PortSet.testAt_val, pure_bind, assessFromChecked_eq]
    by_cases hactive : p.index ∈ b.ports.active
    · simp only [hactive, decide_true, Bool.not_true, Bool.false_eq_true, if_false, not_true_eq_false]
      split
      · rfl
      · cases f.dst? with
        | none => rfl
        | some dst =>
          cases f.src? with
          | none => rfl
          | some src => rfl
    · simp [hactive]

@[simp] theorem sendChecked_eq (b : Bridge) (flight : Flight) (p : Port) :
    b.sendChecked flight p = pure (b.send flight p) := by
  have htagged : b.sendsTaggedChecked flight.serial p.index.val =
      pure (b.sendsTagged flight.serial p.index) := by
    unfold sendsTaggedChecked sendsTagged
    cases b.vlans.record? flight.serial with
    | none => rfl
    | some v => exact PortSet.testAt_val
  rw [sendChecked, htagged, pure_bind]
  rfl

@[simp] theorem sendAllChecked_eq (flight : Flight) (ps : List Port) (b : Bridge) :
    sendAllChecked flight ps b = pure (sendAll flight ps b) := by
  induction ps generalizing b with
  | nil => rfl
  | cons p ps ih => simp only [sendAllChecked, sendAll, sendChecked_eq, ih, pure_bind]

/-- Whatever the octets of a frame and the handle are, no access fails on its way. -/
theorem receiveChecked_eq (b : Bridge) (h : Handle) (f : Frame) :
    b.receiveChecked h f = pure (b.receive h f) := by
  unfold receiveChecked receive
  simp only [assessChecked_eq, pure_bind]
  obtain ⟨c, admission⟩ := b.enter.1.assess h f
  cases admission with
  | dropped reason => rfl
  | trapped ingress vid g => rfl
  | forward flight => simp only [sendAllChecked_eq, pure_bind]

/-! ### The control channel -/

def requestChecked (b : Bridge) (r : Request) : Access (Outcome Response) :=
  match b.operation? r with
  | some op => answerChecked (b.performChecked op) (·.response)
  | none => return b.handle r

/-- A request does what its operation does. The ports of a new entry are gathered before, from their
names. -/
def handleChecked (b : Bridge) : Request → Access (Outcome Response)
  | .fdbAdd key names origin => do
    match b.portIndices names with
    | .error e => return (b, .error e)
    | .ok is =>
      let ports ← (is.map (·.val)).foldlM PortSet.insertAt ∅
      answerChecked (b.fdbAddChecked key ports origin) fun _ => .done
  | r => b.requestChecked r

theorem named_eq_some_slot {name : String} {op : Nat → Operation} {o : Operation}
    (h : b.named name op = some o) : ∃ i : PortIndex, o = op i.val := by
  unfold named at h
  split at h
  · cases h
    exact ⟨_, rfl⟩
  · cases h

/-- A request flushes by no port or by the port of a name. -/
theorem port_of_operation? {r : Request} {f : FlushFilter} {n : Nat}
    (h : b.operation? r = some (.fdbFlush f)) (hport : f.port = some n) : n < maxPorts := by
  cases r with
  | fdbFlush port vid origin agedOnly =>
    cases port with
    | none =>
      cases h
      cases hport
    | some name =>
      simp only [operation?] at h
      obtain ⟨i, hi⟩ := named_eq_some_slot h
      cases hi
      cases hport
      exact i.isLt
  | portAdd =>
    obtain ⟨id, -, hid⟩ := Option.map_eq_some_iff.1 h
    cases hid
  | portDel | portSetPvid | portSetIngress | vlanAttach | vlanDetach | vlanSetFlood
    | vlanSetRouter =>
    simp only [operation?] at h
    obtain ⟨i, hi⟩ := named_eq_some_slot h
    cases hi
  | fdbAdd key ports origin =>
    simp only [operation?] at h
    split at h <;> cases h
  | vlanAdd | vlanDel | vlanSetLearning | fdbDel | portList | vlanList | fdbDump | counters => cases h

theorem requestChecked_eq (hb : b.Reachable) (r : Request) :
    b.requestChecked r = pure (b.handle r) := by
  unfold requestChecked
  rw [handle_eq]
  cases hop : b.operation? r with
  | none => rfl
  | some op =>
    have hperform := performChecked_eq hb (operation?_eq_some hop).1 fun f n hf hport =>
      port_of_operation? (hop.trans (congrArg some hf)) hport
    simp only [hperform, answerChecked_pure]

theorem portsAt_eq (is : List PortIndex) :
    ((is.map (·.val)).foldlM PortSet.insertAt ∅ : Access PortSet) = pure (PortSet.ofList is) := by
  simp [List.foldlM_map, PortSet.ofList]

theorem handleChecked_eq (hb : b.Reachable) (r : Request) :
    b.handleChecked r = pure (b.handle r) := by
  cases r with
  | fdbAdd key names origin =>
    simp only [handleChecked, handle]
    cases b.portIndices names with
    | error e => rfl
    | ok is => simp only [portsAt_eq, pure_bind, fdbAddChecked_eq, answerChecked_pure]
  | portAdd | portDel | portSetPvid | portSetIngress | portList | vlanAdd | vlanDel | vlanAttach
    | vlanDetach | vlanSetLearning | vlanSetFlood | vlanSetRouter | vlanList | fdbFlush | fdbDel
    | fdbDump | counters =>
    simp only [handleChecked]
    exact requestChecked_eq hb _

/-- In every state that a bridge can come into no access fails: not of a frame with any octets that comes
in by any handle, not of a request, and not of an operation with any numbers but a flush by a number that
names no slot. What is done is what the bridge does. -/
theorem no_access_fails (hb : b.Reachable) :
    (∀ h f, b.receiveChecked h f = .ok (b.receive h f)) ∧
    (∀ r, b.handleChecked r = .ok (b.handle r)) ∧
    (∀ op : Operation, op.IsControl →
      (∀ f n, op = .fdbFlush f → f.port = some n → n < maxPorts) →
      b.performChecked op = .ok (b.perform op)) ∧
    ∀ f : Frame, f.wireChecked = .ok f.wire :=
  ⟨b.receiveChecked_eq, handleChecked_eq hb, fun _ hop hflush => performChecked_eq hb hop hflush,
    Frame.wireChecked_eq⟩

/-- Numbers beyond all slots, a frame without an octet, and one that ends within its tag. The number 700
names no port, and a flush by 256, which names no slot, fails at the first entry. -/
theorem no_access_fails_extremes :
    let mac : Mac := ⟨2, 0, 0, 0, 0, 9⟩
    let b := (beside ["eth0", "eth1"]).run [.request (.portAdd "eth0" {}), .request (.portAdd "eth1" {}),
      .request (.fdbAdd (Key.mac Vid.zero mac) ["eth0"] .user), .request (.portDel "eth1")]
    let cut := (Frame.ethernet Mac.broadcast mac EtherType.dot1q [0]).data
    b.Reachable ∧
    (b.receiveChecked ⟨999, 3⟩ { data := [] }).map (·.2.verdict) =
      .ok (.dropped .portInactive) ∧
    (b.receiveChecked ⟨1, 1⟩ { data := [] }).map (·.2.verdict) = .ok (.dropped .runt) ∧
    (b.receiveChecked ⟨1, 1⟩ { data := cut }).map (·.2.verdict) = .ok (.dropped .tagParse) ∧
    (b.handleChecked (.portDel "eth1")).map (·.2) = .ok (.error (.unknownPortName "eth1")) ∧
    (b.performChecked (.portDel 700)).map (·.2) = .ok (.error (.unknownPort 700)) ∧
    (b.performChecked (.fdbFlush (FlushFilter.onPort 255))).map (·.2) = .ok (.ok (.count 0)) ∧
    b.fdbFlushChecked (FlushFilter.onPort 256) = .error (.index 256 maxPorts) := by
  intro mac b cut
  have hb : b.Reachable := (reachable_beside _).run _
  obtain ⟨hreceive, hhandle, hperform, -⟩ := no_access_fails hb
  have hverdict : ∀ {h f v}, (b.receive h f).2.verdict = v →
      (b.receiveChecked h f).map (·.2.verdict) = .ok v := by
    rintro h f v rfl
    rw [hreceive]
    rfl
  have hanswer : ∀ {op a}, op.IsControl →
      (∀ g n, op = .fdbFlush g → g.port = some n → n < maxPorts) → (b.perform op).2 = a →
      (b.performChecked op).map (·.2) = .ok a := by
    rintro op a hop hflush rfl
    rw [hperform op hop hflush]
    rfl
  refine ⟨hb, hverdict (by decide +kernel), hverdict (by decide +kernel), hverdict (by decide +kernel),
    ?_, hanswer trivial nofun (by decide +kernel), hanswer trivial ?_ (by decide +kernel), ?_⟩
  · have hgone : (b.handle (.portDel "eth1")).2 = .error (.unknownPortName "eth1") := by decide +kernel
    rw [hhandle]
    exact congrArg Except.ok hgone
  · rintro g n hg hport
    cases hg
    cases hport
    decide
  · have hcovered : b.fdb.entries.any
        (·.covered (FlushFilter.onPort 256) b.fdb.ageing (stamp b.clock)) = true := by decide +kernel
    rw [fdbFlushChecked_of_le rfl (by decide : maxPorts ≤ 256), if_pos hcovered]
    rfl

end Bridge

end VlanBridge
