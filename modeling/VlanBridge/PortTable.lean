import VlanBridge.Error
/-!
# The port table

The table has `maxPorts` slots. A slot is busy from the moment a port is put into it until the
deleted port's record has been released, so no frame in flight meets another port in its slot; it is
active while frames may be sent to it. Slot 0 holds the local port, which stays. A new port takes
the lowest slot that is not busy, and each port put into a slot has a generation of its own.
-/

namespace VlanBridge

open VlanBridge.Net

/-- Checks in order whether a device may become a port of the bridge. -/
def Device.checkEligible (d : Device) (bridgeName : String) : Except BridgeError Unit :=
  if d.name = bridgeName then .error (.bridgeItself d.name)
  else if d.kind ≠ .ethernet then .error (.kindNotBridged d.name d.kind)
  else if !d.mac.isStation then .error (.addressNotStation d.name d.mac)
  else if d.hasMaster then .error (.hasMaster d.name)
  else if !d.bridgingAllowed then .error (.bridgingForbidden d.name)
  else .ok ()

structure PortTable where
  slots : Vector (Option Port) maxPorts := Vector.replicate maxPorts none
  /-- The slots that are not free. -/
  busy : PortSet := ∅
  /-- The slots that frames may be sent to. -/
  active : PortSet := ∅
  /-- How many ports have been put into each slot, counted without a bound (see `Port`). -/
  generations : Vector Nat maxPorts := Vector.replicate maxPorts 0
  deriving DecidableEq

namespace PortTable

instance : Inhabited PortTable := ⟨{}⟩

def port? (t : PortTable) (i : PortIndex) : Option Port := t.slots[i]

/-- The port in the slot with a number, which need not be the number of a slot. -/
def get? (t : PortTable) (n : Nat) : Option Port := (PortIndex.ofNat? n).bind t.port?

/-- Puts a port into a slot, as the next generation there. -/
def install (t : PortTable) (i : PortIndex) (name : String) (endpoint : Endpoint)
    (ingress : IngressDefaults) : PortTable × Port :=
  let generation := t.generations[i] + 1
  let port : Port := { index := i, generation, name, endpoint, ingress }
  ({ t with
      slots := t.slots.set i (some port)
      busy := t.busy.insert i
      generations := t.generations.set i generation }, port)

/-- The table of a new bridge: the local port under the bridge's name, not yet active. -/
def ofName (bridgeName : String) : PortTable :=
  (({} : PortTable).install localPort bridgeName .localStack {}).1

def list (t : PortTable) : List Port := t.slots.toList.filterMap id

def size (t : PortTable) : Nat := t.list.length

/-- The port of a device, by the device's name; the local port is passed over. -/
def findByName (t : PortTable) (name : String) : Option Port :=
  t.list.find? fun p => p.index != localPort && p.name == name

def find (t : PortTable) (deviceName : String) : Except BridgeError PortIndex :=
  match t.findByName deviceName with
  | some p => .ok p.index
  | none => .error (.notAPort deviceName)

/-- Puts a device's port into the lowest free slot. The port is not active yet. -/
def add (t : PortTable) (d : Device) (id : DeviceId) (ingress : IngressDefaults)
    (bridgeName : String) : Except BridgeError (PortTable × Port) :=
  if (t.findByName d.name).isSome then .error (.alreadyPort d.name)
  else match d.checkEligible bridgeName with
    | .error e => .error e
    | .ok () =>
      match t.busy.firstFree? with
      | none => .error .tableFull
      | some i => .ok (t.install i d.name (.device id) ingress)

def activate (t : PortTable) (i : PortIndex) : PortTable := { t with active := t.active.insert i }

/-- Empties a slot, which stays busy. -/
def clear (t : PortTable) (i : PortIndex) : PortTable :=
  { t with slots := t.slots.set i none, active := t.active.erase i }

def remove (t : PortTable) (n : Nat) : Except BridgeError (PortTable × Port) :=
  if n = localPort.val then .error .localPortFixed
  else match PortIndex.ofNat? n with
    | none => .error (.unknownPort n)
    | some i =>
      match t.port? i with
      | none => .error (.unknownPort n)
      | some p => .ok (t.clear i, p)

def free (t : PortTable) (i : PortIndex) : PortTable := { t with busy := t.busy.erase i }

/-- The port of a handle, unless it has been replaced since. -/
def resolve (t : PortTable) (h : Handle) : Except BridgeError Port :=
  match t.get? h.index with
  | some p => if p.generation = h.generation then .ok p else .error (.unknownHandle h)
  | none => .error (.unknownHandle h)

/-- The port in the slot with a number, or the error that there is none. -/
def require (t : PortTable) (n : Nat) : Except BridgeError Port :=
  match t.get? n with
  | some p => .ok p
  | none => .error (.unknownPort n)

def modify (t : PortTable) (i : PortIndex) (f : Port → Port) : PortTable :=
  { t with slots := t.slots.set i ((t.port? i).map f) }

def mapPorts (t : PortTable) (f : Port → Port) : PortTable :=
  { t with slots := t.slots.map (Option.map f) }

def text (t : PortTable) : String :=
  "PortTable \x7b busy: " ++ t.busy.text ++ ", active: " ++ t.active.text ++ " \x7d"

/-! ### What the operations do to a slot -/

theorem port?_install (t : PortTable) (i j : PortIndex) (name : String) (endpoint : Endpoint)
    (ingress : IngressDefaults) :
    (t.install i name endpoint ingress).1.port? j =
      if i = j then some (t.install i name endpoint ingress).2 else t.port? j := by
  simp only [install, port?, Fin.getElem_fin, Vector.getElem_set, Fin.ext_iff]

theorem port?_clear (t : PortTable) (i j : PortIndex) :
    (t.clear i).port? j = if i = j then none else t.port? j := by
  simp only [clear, port?, Fin.getElem_fin, Vector.getElem_set, Fin.ext_iff]

theorem port?_modify (t : PortTable) (i j : PortIndex) (f : Port → Port) :
    (t.modify i f).port? j = if i = j then (t.port? j).map f else t.port? j := by
  simp only [modify, port?, Fin.getElem_fin, Vector.getElem_set, Fin.ext_iff]
  by_cases h : i.val = j.val
  · simp only [h, if_true]
  · simp only [h, if_false]

theorem port?_mapPorts (t : PortTable) (j : PortIndex) (f : Port → Port) :
    (t.mapPorts f).port? j = (t.port? j).map f := by
  simp only [mapPorts, port?, Fin.getElem_fin, Vector.getElem_map]

theorem mem_list {t : PortTable} {p : Port} : p ∈ t.list ↔ ∃ i, t.port? i = some p := by
  simp only [list, List.mem_filterMap, id_eq, exists_eq_right, Vector.mem_toList_iff, port?,
    Vector.mem_iff_getElem]
  constructor
  · rintro ⟨i, hi, h⟩
    exact ⟨⟨i, hi⟩, h⟩
  · rintro ⟨i, h⟩
    exact ⟨i.val, i.isLt, h⟩

theorem get?_val (t : PortTable) (i : PortIndex) : t.get? i.val = t.port? i := by
  simp [get?, PortIndex.ofNat?_val]

end PortTable

end VlanBridge
