import VlanBridge.Device
/-!
# The network stack around a bridge

The devices, the names under which they are registered, and the local stack, which takes the frames
that are meant for the bridge itself. A device is referred to by its place in the list of devices; a
name refers to the device that was registered under it last.
-/

namespace VlanBridge

abbrev DeviceId := Nat

structure LocalStack where
  /-- The frames received since they were last taken, the latest first. -/
  received : List Frame := []
  count : UInt64 := 0
  deriving DecidableEq, Repr

namespace LocalStack

def deliver (s : LocalStack) (f : Frame) : LocalStack :=
  { received := f :: s.received, count := s.count + 1 }

/-- Takes out the frames received so far, in their order. -/
def takeReceived (s : LocalStack) : LocalStack × List Frame :=
  ({ s with received := [] }, s.received.reverse)

end LocalStack

/-- The devices, their registry and the local stack. -/
structure Network where
  devices : Array Device := #[]
  registry : List (String × DeviceId) := []
  stack : LocalStack := {}
  deriving DecidableEq, Repr

namespace Network

instance : Inhabited Network := ⟨{}⟩

def device? (net : Network) (id : DeviceId) : Option Device := net.devices[id]?

/-- Adds a device, not yet registered. -/
def addDevice (net : Network) (d : Device) : Network × DeviceId :=
  ({ net with devices := net.devices.push d }, net.devices.size)

def modifyDevice (net : Network) (id : DeviceId) (f : Device → Device) : Network :=
  { net with devices := net.devices.modify id f }

/-- Registers a device under its name, in place of another one of that name. -/
def register (net : Network) (name : String) (id : DeviceId) : Network :=
  { net with registry := (name, id) :: net.registry.filter (·.1 != name) }

/-- Takes a name out of the registry and says whether it was there. -/
def unregister (net : Network) (name : String) : Network × Bool :=
  ({ net with registry := net.registry.filter (·.1 != name) }, net.registry.any (·.1 == name))

def lookup (net : Network) (name : String) : Option DeviceId :=
  (net.registry.find? (·.1 == name)).map (·.2)

def addRegistered (net : Network) (d : Device) : Network × DeviceId :=
  let (net, id) := net.addDevice d
  (net.register d.name id, id)

/-- Has a device send a frame; says whether it took it. -/
def transmit (net : Network) (id : DeviceId) (f : Frame) : Network × Bool :=
  match net.device? id with
  | some d =>
    let (d, result) := d.transmit f
    (net.modifyDevice id fun _ => d, result.isOk)
  | none => (net, false)

/-- Gives a device a master unless it has one; other reasons to refuse a master do not count. -/
def attach (net : Network) (id : DeviceId) (master : String) : Network × Except DeviceError Unit :=
  match net.device? id with
  | none => (net, .ok ())
  | some d =>
    match d.attachTo master with
    | .ok d => (net.modifyDevice id fun _ => d, .ok ())
    | .error e => (net, .error e)

def takeSent (net : Network) (id : DeviceId) : Network × List Frame :=
  match net.device? id with
  | some d => (net.modifyDevice id fun _ => d.takeSent.1, d.takeSent.2)
  | none => (net, [])

/-- Takes out the frames that the local stack has received. -/
def takeReceived (net : Network) : Network × List Frame :=
  let (stack, frames) := net.stack.takeReceived
  ({ net with stack }, frames)

def deliverLocally (net : Network) (f : Frame) : Network :=
  { net with stack := net.stack.deliver f }

theorem device?_modifyDevice (net : Network) (id other : DeviceId) (f : Device → Device) :
    (net.modifyDevice id f).device? other =
      if other = id then (net.device? other).map f else net.device? other := by
  simp only [device?, modifyDevice, Array.getElem?_modify]
  by_cases h : id = other
  · subst h
    simp
  · have : ¬ other = id := fun e => h e.symm
    simp [h, this]

theorem lookup_register (net : Network) (name other : String) (id : DeviceId) :
    (net.register name id).lookup other = if other = name then some id else net.lookup other := by
  unfold register lookup
  by_cases h : other = name
  · subst h
    simp
  · have hne : (name == other) = false := by simpa using fun e => h e.symm
    simp only [List.find?_cons, hne, h, if_false]
    congr 1
    induction net.registry with
    | nil => rfl
    | cons p ps ih =>
      by_cases hp : p.1 = other
      · simp [hp, h]
      · by_cases hq : p.1 = name <;> simp_all

end Network

end VlanBridge
