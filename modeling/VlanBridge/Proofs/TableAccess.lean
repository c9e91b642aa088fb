import VlanBridge.Learning
import VlanBridge.PortTable
import VlanBridge.VlanDb
import VlanBridge.Proofs.FrameSlices
import VlanBridge.Proofs.Slots
/-!
# The tables under numbers

The operations of the port table, the VLANs and the forwarding table as a machine does them: a port is
given by a number, and each word, slot and octet that is used may turn out not to be there. By the number
of a slot no access fails, and the operation is the one of the table.
-/

namespace VlanBridge

open VlanBridge.Net

/-! ### VLANs -/

namespace Vlan

def attachChecked (v : Vlan) (n : Nat) (tagged : Bool) : Access Vlan := do
  let member ← v.members.testAt n
  let joined ←
    if member then pure v
    else do
      let members ← v.members.insertAt n
      let unicastFlood ← v.unicastFlood.insertAt n
      let multicastFlood ← v.multicastFlood.insertAt n
      let broadcastFlood ← v.broadcastFlood.insertAt n
      pure { v with members, unicastFlood, multicastFlood, broadcastFlood }
  let tagged ← joined.tagged.setAt n tagged
  return { joined with tagged }

/-- Takes a port out of all sets; says whether it was a member. -/
def detachChecked (v : Vlan) (n : Nat) : Access (Vlan × Bool) := do
  let member ← v.members.testAt n
  let tagged ← v.tagged.eraseAt n
  let members ← v.members.eraseAt n
  let unicastFlood ← v.unicastFlood.eraseAt n
  let multicastFlood ← v.multicastFlood.eraseAt n
  let broadcastFlood ← v.broadcastFlood.eraseAt n
  let routers ← v.routers.eraseAt n
  return ({ v with members, tagged, unicastFlood, multicastFlood, broadcastFlood, routers }, member)

def withoutChecked (v : Vlan) (n : Nat) : Access Vlan := do
  let (without, _) ← v.detachChecked n
  return without

def detachMembersChecked (v : Vlan) : Access Vlan := do
  let ns ← v.members.membersAt
  ns.foldlM withoutChecked v

def setFloodChecked (v : Vlan) (c : FloodClass) (n : Nat) (enabled : Bool) : Access Vlan := do
  let ports ← (v.flood c).setAt n enabled
  return v.modifyFlood c fun _ => ports

def setRouterChecked (v : Vlan) (n : Nat) (enabled : Bool) : Access Vlan := do
  let routers ← v.routers.setAt n enabled
  return { v with routers }

variable {v : Vlan} {i : PortIndex}

@[simp] theorem attachChecked_val (tagged : Bool) :
    v.attachChecked i.val tagged = pure (v.attach i tagged) := by
  unfold attachChecked attach
  by_cases hmember : i ∈ v.members <;> simp [hmember]

@[simp] theorem detachChecked_val :
    v.detachChecked i.val = pure (v.detach i, decide (i ∈ v.members)) := by
  simp [detachChecked, detach]

@[simp] theorem withoutChecked_val : v.withoutChecked i.val = pure (v.detach i) := by
  simp [withoutChecked]

@[simp] theorem detachMembersChecked_eq (v : Vlan) :
    v.detachMembersChecked = pure v.detachMembers := by
  simp [detachMembersChecked, detachMembers, PortSet.toNats, List.foldlM_map]

@[simp] theorem setFloodChecked_val (c : FloodClass) (enabled : Bool) :
    v.setFloodChecked c i.val enabled = pure (v.setFlood c i enabled) := by
  cases c <;> simp [setFloodChecked, setFlood, modifyFlood, flood]

@[simp] theorem setRouterChecked_val (enabled : Bool) :
    v.setRouterChecked i.val enabled = pure (v.setRouter i enabled) := by
  simp [setRouterChecked, setRouter]

end Vlan

namespace VlanDb

def modifyChecked (db : VlanDb) (vid : Vid) (f : Vlan → Access Vlan) : Access VlanDb := do
  let published ← db.published.mapM fun r =>
    if r.vlan.vid = vid then do
      let vlan ← f r.vlan
      return { r with vlan }
    else return r
  return { db with published }

def modifyExistingChecked (db : VlanDb) (vid : Vid) (f : Vlan → Access Vlan) :
    Access (Except BridgeError VlanDb) := do
  match db.require vid with
  | .error e => return .error e
  | .ok _ =>
    let changed ← db.modifyChecked vid f
    return .ok changed

def deleteChecked (db : VlanDb) (vid : Vid) : Access (Except BridgeError (VlanDb × VlanRecord)) := do
  if vid.isZero then return .error .defaultVlanFixed
  else match db.find? vid with
    | none => return .error (.unknownVlan vid)
    | some r =>
      let vlan ← r.vlan.detachMembersChecked
      let gone := { r with vlan }
      return .ok ({ db with
        published := db.published.filter (·.vlan.vid != vid)
        withdrawn := gone :: db.withdrawn }, gone)

def detachChecked (db : VlanDb) (vid : Vid) (n : Nat) : Access (VlanDb × Except BridgeError Unit) := do
  match db.require vid with
  | .error e => return (db, .error e)
  | .ok v =>
    let (_, member) ← v.detachChecked n
    let changed ← db.modifyChecked vid (·.withoutChecked n)
    let i ← Access.index n maxPorts
    return (changed, if member then .ok () else .error (.notMember i vid))

def detachAllChecked (db : VlanDb) (n : Nat) : Access VlanDb := do
  let published ← db.published.mapM fun r => do
    let vlan ← r.vlan.withoutChecked n
    return { r with vlan }
  return { db with published }

def normalizeTagChecked (proto : EtherType) (f : Frame) : Access (Except DropReason Frame) := do
  match f.tag with
  | some tag => return .ok (f.withTag (some (tag.withProto proto)))
  | none =>
    match ← f.untagChecked proto with
    | .error _ => return .error .tagParse
    | .ok (some g) => return .ok g
    | .ok none => return .ok f

def classifyChecked (db : VlanDb) (p : Port) (f : Frame) (proto : EtherType) :
    Access (Except DropReason (Classification × Frame)) := do
  match ← normalizeTagChecked proto f with
  | .error reason => return .error reason
  | .ok f =>
    let vid := effectiveVid p f.tag
    let record := db.find? vid
    let allowed ← match record with
      | some r => do
        let member ← r.vlan.members.testAt p.index.val
        pure (member || !p.ingress.vlanFiltering)
      | none => pure false
    return .ok ({ vid, record, allowed }, f)

variable {db : VlanDb} {vid : Vid} {i : PortIndex}

theorem modifyChecked_of_pure {f : Vlan → Access Vlan} {g : Vlan → Vlan}
    (h : ∀ v, f v = pure (g v)) : db.modifyChecked vid f = pure (db.modify vid g) := by
  have hone : ∀ r : VlanRecord, (if r.vlan.vid = vid then do
      let vlan ← f r.vlan
      return { r with vlan }
    else return r : Access VlanRecord) =
      pure (if r.vlan.vid = vid then { r with vlan := g r.vlan } else r) := by
    intro r
    split <;> simp [h]
  simp only [modifyChecked, modify, hone, List.mapM_pure, pure_bind]

theorem modifyExistingChecked_of_pure {f : Vlan → Access Vlan} {g : Vlan → Vlan}
    (h : ∀ v, f v = pure (g v)) :
    db.modifyExistingChecked vid f = pure (db.modifyExisting vid g) := by
  unfold modifyExistingChecked modifyExisting
  cases db.require vid with
  | error e => rfl
  | ok v => simp [modifyChecked_of_pure h]

@[simp] theorem deleteChecked_eq (db : VlanDb) (vid : Vid) :
    db.deleteChecked vid = pure (db.delete vid) := by
  unfold deleteChecked delete
  split
  · rfl
  · cases db.find? vid with
    | none => rfl
    | some r => simp

@[simp] theorem detachChecked_val : db.detachChecked vid i.val = pure (db.detach vid i) := by
  unfold detachChecked detach
  cases db.require vid with
  | error e => rfl
  | ok v =>
    have hmodify : db.modifyChecked vid (·.withoutChecked i.val) = pure (db.modify vid (·.detach i)) :=
      modifyChecked_of_pure fun v => v.withoutChecked_val
    simp only [Vlan.detachChecked_val, Access.index_val, hmodify, pure_bind, decide_eq_true_eq]

@[simp] theorem detachAllChecked_val : db.detachAllChecked i.val = pure (db.detachAll i).1 := by
  simp [detachAllChecked, detachAll]

@[simp] theorem normalizeTagChecked_eq (proto : EtherType) (f : Frame) :
    normalizeTagChecked proto f = pure (normalizeTag proto f) := by
  unfold normalizeTagChecked normalizeTag
  cases f.tag with
  | some tag => rfl
  | none =>
    simp only [Frame.untagChecked_eq, pure_bind]
    rcases f.untag proto with e | _ | g
    · rfl
    · rfl
    · rfl

@[simp] theorem classifyChecked_eq (db : VlanDb) (p : Port) (f : Frame) (proto : EtherType) :
    db.classifyChecked p f proto = pure (db.classify p f proto) := by
  unfold classifyChecked classify
  simp only [normalizeTagChecked_eq, pure_bind]
  cases normalizeTag proto f with
  | error reason => rfl
  | ok g =>
    simp only
    cases db.find? (effectiveVid p g.tag) with
    | none => rfl
    | some r => simp

end VlanDb

/-! ### Ports -/

namespace PortTable

/-- Puts a port into a slot. Its generation, its egress set and the slot are found by the number. -/
def installChecked (t : PortTable) (n : Nat) (name : String) (endpoint : Endpoint)
    (ingress : IngressDefaults) : Access (PortTable × Port) := do
  let i ← Access.index n maxPorts
  let generation := t.generations[i] + 1
  let _ ← PortSet.full.eraseAt n
  let busy ← t.busy.insertAt n
  let i ← Access.index n maxPorts
  let port : Port := { index := i, generation, name, endpoint, ingress }
  return ({ t with
    slots := t.slots.set i (some port)
    busy
    generations := t.generations.set i generation }, port)

def addChecked (t : PortTable) (d : Device) (id : DeviceId) (ingress : IngressDefaults)
    (bridgeName : String) : Access (Except BridgeError (PortTable × Port)) := do
  if (t.findByName d.name).isSome then return .error (.alreadyPort d.name)
  else match d.checkEligible bridgeName with
    | .error e => return .error e
    | .ok () =>
      match t.busy.firstFree? with
      | none => return .error .tableFull
      | some i =>
        let installed ← t.installChecked i.val d.name (.device id) ingress
        return .ok installed

def activateChecked (t : PortTable) (n : Nat) : Access PortTable := do
  let active ← t.active.insertAt n
  return { t with active }

def removeChecked (t : PortTable) (n : Nat) : Access (Except BridgeError (PortTable × Port)) := do
  if n = localPort.val then return .error .localPortFixed
  else match t.get? n with
    | none => return .error (.unknownPort n)
    | some p =>
      let active ← t.active.eraseAt n
      let i ← Access.index n maxPorts
      return .ok ({ t with slots := t.slots.set i none, active }, p)

def freeChecked (t : PortTable) (n : Nat) : Access PortTable := do
  let busy ← t.busy.eraseAt n
  return { t with busy }

variable {t : PortTable} {i : PortIndex}

@[simp] theorem addChecked_eq (t : PortTable) (d : Device) (id : DeviceId)
    (ingress : IngressDefaults) (bridgeName : String) :
    t.addChecked d id ingress bridgeName = pure (t.add d id ingress bridgeName) := by
  unfold addChecked add
  split
  · rfl
  · cases d.checkEligible bridgeName with
    | error e => rfl
    | ok u =>
      cases t.busy.firstFree? with
      | none => rfl
      | some i => simp [installChecked, install]

@[simp] theorem activateChecked_val : t.activateChecked i.val = pure (t.activate i) := by
  simp [activateChecked, activate]

@[simp] theorem freeChecked_val : t.freeChecked i.val = pure (t.free i) := by
  simp [freeChecked, free]

/-- A number that is too large for the slots is told from the others before anything is done by it. -/
@[simp] theorem removeChecked_eq (t : PortTable) (n : Nat) :
    t.removeChecked n = pure (t.remove n) := by
  unfold removeChecked remove
  split
  · rfl
  · by_cases hn : n < maxPorts
    · obtain ⟨i, rfl⟩ : ∃ i : PortIndex, i.val = n := ⟨⟨n, hn⟩, rfl⟩
      rw [get?_val, PortIndex.ofNat?_val]
      cases hp : t.port? i with
      | none => simp [hp]
      | some p => simp [hp, clear]
    · have hnone : PortIndex.ofNat? n = none := PortIndex.ofNat?_eq_none.2 (Nat.le_of_not_lt hn)
      simp [get?, hnone]

theorem index_install (t : PortTable) (i : PortIndex) (name : String) (endpoint : Endpoint)
    (ingress : IngressDefaults) : (t.install i name endpoint ingress).2.index = i := rfl

/-- A port that was just put into a slot can be taken out of it again. -/
theorem remove_install (t : PortTable) (hlocal : i ≠ localPort) (name : String) (endpoint : Endpoint)
    (ingress : IngressDefaults) :
    (t.install i name endpoint ingress).1.remove i.val =
      .ok ((t.install i name endpoint ingress).1.clear i, (t.install i name endpoint ingress).2) := by
  refine remove_of_port? hlocal ?_
  rw [port?_install, if_pos rfl]

end PortTable

/-! ### Forwarding entries -/

namespace Fdb

/-- The entry after its address was seen at a port. -/
def seenChecked (e : Entry) (n : Nat) (now : Nat) : Access Entry := do
  let member ← e.ports.testAt n
  let ports ← if member then pure e.ports else e.ports.storeSingleAt n
  return { e with ports, lastSeen := max e.lastSeen now }

def learnChecked (t : Fdb) (src : Mac) (vid : Vid) (n : Nat) (now : Int) :
    Access (Fdb × LearnOutcome) := do
  if !src.isStation then return (t, .ignored)
  else
    let key := Key.mac vid src
    match t.find? key with
    | none =>
      let ports ← (∅ : PortSet).insertAt n
      return (t.insert ⟨key, .dynamic, ports, stamp now⟩, .learned)
    | some e =>
      if e.origin = .dynamic then
        let member ← e.ports.testAt n
        let entries ← t.entries.mapM fun e =>
          if e.key = key then seenChecked e n (stamp now) else pure e
        return ({ t with entries }, if member then .refreshed else .moved)
      else return (t, .static)

/-- What a flush leaves of an entry. The port of the filter is compared only with the entries that meet
its other criteria. -/
def flushedChecked (t : Fdb) (f : FlushFilter) (now : Nat) (e : Entry) : Access (Option Entry) := do
  if e.covered f t.ageing now then
    match f.port with
    | none => return none
    | some n =>
      let member ← e.ports.testAt n
      if member then
        let ports ← e.ports.eraseAt n
        return if ports.isEmpty then none else some { e with ports }
      else return some e
  else return some e

def flushChecked (t : Fdb) (f : FlushFilter) (now : Int) : Access (Fdb × List Entry) := do
  let left ← t.entries.mapM fun e => do
    let rest ← t.flushedChecked f (stamp now) e
    return (e, rest)
  let gone := (left.filter (·.2.isNone)).map (·.1)
  return ({ t with entries := left.filterMap (·.2) },
    if f.port.isSome then gone.map ({ · with ports := ∅ }) else gone)

variable {t : Fdb} {i : PortIndex}

@[simp] theorem seenChecked_val (e : Entry) (now : Nat) :
    seenChecked e i.val now = pure (seen e i now) := by
  unfold seenChecked seen
  by_cases hi : i ∈ e.ports <;> simp [hi]

theorem insert_empty (i : PortIndex) : (∅ : PortSet).insert i = PortSet.singleton i := by
  ext j
  simp

@[simp] theorem learnChecked_val (src : Mac) (vid : Vid) (now : Int) :
    t.learnChecked src vid i.val now = pure (t.learn src vid i now) := by
  unfold learnChecked learn
  split
  · rfl
  · simp only
    cases t.find? (Key.mac vid src) with
    | none => simp [insert_empty]
    | some e =>
      simp only
      split
      · have hone : ∀ d : Entry, (if d.key = Key.mac vid src then seenChecked d i.val (stamp now)
            else pure d : Access Entry) =
              pure (if d.key = Key.mac vid src then seen d i (stamp now) else d) := by
          intro d
          split <;> simp
        simp only [PortSet.testAt_val, hone, List.mapM_pure, pure_bind, modify, decide_eq_true_eq]
      · rfl

theorem flushedChecked_eq {f : FlushFilter} {port : Option PortIndex} (h : f.port = port.map (·.val))
    (now : Nat) (e : Entry) : t.flushedChecked f now e = pure (t.flushed? f port now e) := by
  unfold flushedChecked flushed? isHit Entry.sendsTo Entry.portsWithout
  by_cases hcovered : e.covered f t.ageing now = true
  · cases port with
    | none =>
      have hempty : (∅ : PortSet).isEmpty = true := PortSet.isEmpty_iff.2 rfl
      simp [hcovered, h, hempty]
    | some i => by_cases hi : i ∈ e.ports <;> simp [hcovered, h, hi]
  · simp [hcovered]

/-- No access of a flush fails if the port of its filter is a slot. -/
theorem flushChecked_eq {f : FlushFilter} {port : Option PortIndex} (h : f.port = port.map (·.val))
    (now : Int) : t.flushChecked f now = pure (t.flushPort f port now) := by
  have hsome : f.port.isSome = port.isSome := by
    rw [h, Option.isSome_map]
  simp only [flushChecked, flushPort, flushedChecked_eq h, pure_bind, List.mapM_pure, hsome]
  simp [List.filterMap_map, List.filter_map, Function.comp_def]

theorem flushedChecked_of_le {f : FlushFilter} {n : Nat} (hport : f.port = some n)
    (hn : maxPorts ≤ n) (now : Nat) (e : Entry) :
    t.flushedChecked f now e =
      if e.covered f t.ageing now then throw (.index n maxPorts) else pure (some e) := by
  unfold flushedChecked
  split
  · rw [hport]
    simp only [PortSet.testAt_of_le hn]
    rfl
  · rfl

/-- A flush by a number that names no slot fails as soon as it has to look at the ports of an entry. -/
theorem flushChecked_of_le {f : FlushFilter} {n : Nat} (hport : f.port = some n)
    (hn : maxPorts ≤ n) (now : Int) :
    t.flushChecked f now =
      if t.entries.any (·.covered f t.ageing (stamp now)) then throw (.index n maxPorts)
      else pure (t, []) := by
  have hall : ∀ es : List Entry, (es.mapM fun e => do
      let rest ← t.flushedChecked f (stamp now) e
      return (e, rest) : Access (List (Entry × Option Entry))) =
      if es.any (·.covered f t.ageing (stamp now)) then throw (.index n maxPorts)
      else pure (es.map fun e => (e, some e)) := by
    intro es
    induction es with
    | nil => rfl
    | cons e es ih =>
      rw [List.mapM_cons, ih, flushedChecked_of_le hport hn]
      by_cases hcovered : e.covered f t.ageing (stamp now) = true
      · rw [if_pos hcovered, List.any_cons, hcovered]
        rfl
      · rw [if_neg hcovered, List.any_cons, Bool.eq_false_iff.2 hcovered, Bool.false_or]
        split <;> rfl
  unfold flushChecked
  rw [hall]
  split
  · rfl
  · have hnone : (t.entries.filter fun _ => false) = [] :=
      List.filter_eq_nil_iff.2 fun _ _ => Bool.false_ne_true
    simp [hport, List.filterMap_map, List.filter_map, Function.comp_def, hnone]

end Fdb

/-! ### The forwarding table at work -/

namespace Learning

def learnChecked (s : Learning) (src : Mac) (vid : Vid) (n : Nat) (now : Int) :
    Access (Learning × LearnOutcome) := do
  let (fdb, outcome) ← s.fdb.learnChecked src vid n now
  return (s.learnedAs fdb outcome, outcome)

def flushChecked (s : Learning) (f : FlushFilter) (now : Int) : Access (Learning × List Entry) := do
  let (fdb, gone) ← s.fdb.flushChecked f now
  return (s.without fdb gone, gone)

variable {s : Learning} {i : PortIndex}

@[simp] theorem learnChecked_val (src : Mac) (vid : Vid) (now : Int) :
    s.learnChecked src vid i.val now = pure (s.learn src vid i now) := by
  simp [learnChecked, learn]

theorem flushChecked_eq {f : FlushFilter} (port : Option PortIndex) (h : f.port = port.map (·.val))
    (now : Int) : s.flushChecked f now = pure (s.flushPort f port now) := by
  simp [flushChecked, flushPort, Fdb.flushChecked_eq h]

end Learning

end VlanBridge
