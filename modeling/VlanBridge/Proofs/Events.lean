import VlanBridge.Bridge.Operation
import VlanBridge.Control
/-!
# What can happen to a bridge

An `Event` is one thing that happens to a bridge from outside: a control operation, a request, a frame
that comes in, the ageing task at work, the clock going on, another trap, a change of the network stack
around it. `Reachable` is every state that a new bridge comes into by events, each run to its end.

A request does nothing of its own: it amounts to an operation (`operation?`) or leaves the bridge alone.
-/

namespace VlanBridge

open VlanBridge.Net

/-- An operation of a bridge, and not of its forwarding table alone. -/
def Operation.IsControl : Operation → Prop
  | .learn .. => False
  | _ => True

/-- The key under which a request puts an entry, whatever was there before. -/
def Request.addedKey? : Request → Option Key
  | .fdbAdd key _ _ => some key
  | _ => none

def Operation.addedKey? : Operation → Option Key
  | .fdbAdd key _ _ => some key
  | _ => none

/-- What a request is told when its operation gives an answer. -/
def Operation.Answer.response : Operation.Answer → Response
  | .handle h => .portAdded h
  | .count n => .flushed n
  | .done | .flag _ | .learned _ => .done

/-- Something that happens to a bridge. -/
inductive Event where
  | perform (op : Operation) (control : op.IsControl)
  | request (request : Request)
  | receive (handle : Handle) (frame : Frame)
  | wake (now : Nat)
  | clock (now : Nat)
  | trap (trap : Option Trap)
  | network (network : Network)

namespace Bridge

/-- The bridge after an event. -/
def next (b : Bridge) : Event → Bridge
  | .perform op _ => (b.perform op).1
  | .request r => (b.handle r).1
  | .receive h f => (b.receive h f).1
  | .wake now => b.wake now
  | .clock now => b.withLearning { b.toLearning with clock := now }
  | .trap trap => { b with trap }
  | .network network => { b with network }

/-- The bridge after some events. -/
def run (b : Bridge) (events : List Event) : Bridge := events.foldl next b

/-- The states that a bridge can come into. -/
inductive Reachable : Bridge → Prop where
  | create {config : BridgeConfig} {network : Network} {b : Bridge} :
      Bridge.create config network = .ok b → Reachable b
  | next {b : Bridge} (e : Event) : Reachable b → Reachable (b.next e)

theorem Reachable.run {b : Bridge} (hb : Reachable b) (events : List Event) :
    Reachable (b.run events) := by
  induction events generalizing b with
  | nil => exact hb
  | cons e es ih => exact ih (hb.next e)

theorem exists_create {config : BridgeConfig} (h : config.validate = .ok ()) (network : Network) :
    ∃ b, Bridge.create config network = .ok b := by
  unfold Bridge.create
  rw [h]
  exact ⟨_, rfl⟩

theorem create_eq_ok {config : BridgeConfig} {network : Network} {b : Bridge}
    (h : Bridge.create config network = .ok b) : b = {
      fdb := { ageing := config.ageingNs }
      config
      ports := (PortTable.ofName config.name).activate localPort
      vlans := (VlanDb.initial config.defaultLearning).modify Vid.zero (·.attach localPort false)
      network } := by
  unfold Bridge.create at h
  split at h
  · cases h
  · exact (Except.ok.inj h).symm

/-- A new bridge beside Ethernet devices of some names. -/
def beside (names : List String) : Bridge where
  fdb := { ageing := ({} : BridgeConfig).ageingNs }
  config := {}
  ports := (PortTable.ofName "ubr0").activate localPort
  vlans := (VlanDb.initial true).modify Vid.zero (·.attach localPort false)
  network := {
    devices := (names.mapIdx fun n name =>
      { name, mac := ⟨2, 0, 0, 0, 0, UInt8.ofNat (n + 1)⟩ }).toArray
    registry := names.zipIdx }

theorem create_beside (names : List String) :
    Bridge.create {} (beside names).network = .ok (beside names) := rfl

theorem reachable_beside (names : List String) : (beside names).Reachable :=
  .create (create_beside names)

/-! ### Requests -/

/-- An operation on the port of a name. -/
def named (b : Bridge) (name : String) (op : Nat → Operation) : Option Operation :=
  match b.portIndex name with
  | .ok i => some (op i.val)
  | .error _ => none

/-- The operation that a request amounts to, if it amounts to one. -/
def operation? (b : Bridge) : Request → Option Operation
  | .portAdd device defaults => (b.network.lookup device).map (.portAdd · defaults)
  | .portDel device => b.named device .portDel
  | .portSetPvid port vid => b.named port (.portSetPvid · vid)
  | .portSetIngress port defaults => b.named port (.portSetIngress · defaults)
  | .vlanAdd vid => some (.vlanAdd vid)
  | .vlanDel vid => some (.vlanDel vid)
  | .vlanAttach vid port tagged => b.named port (.vlanAttach vid · tagged)
  | .vlanDetach vid port => b.named port (.vlanDetach vid ·)
  | .vlanSetLearning vid enabled => some (.vlanSetLearning vid enabled)
  | .vlanSetFlood vid port c enabled => b.named port (.vlanSetFlood vid c · enabled)
  | .vlanSetRouter vid port enabled => b.named port (.vlanSetRouter vid · enabled)
  | .fdbFlush none vid origin agedOnly => some (.fdbFlush { vid, origin, agedOnly })
  | .fdbFlush (some port) vid origin agedOnly =>
    b.named port fun n => .fdbFlush { port := some n, vid, origin, agedOnly }
  | .fdbAdd key ports origin =>
    match b.portIndices ports with
    | .ok is => some (.fdbAdd key (PortSet.ofList is) origin)
    | .error _ => none
  | .fdbDel key => some (.fdbDel key)
  | .portList | .vlanList | .fdbDump | .counters => none

theorem answer_response {α : Type} (o : Outcome α) (form : α → Operation.Answer) :
    (answer o fun a => (form a).response) = answer (answer o form) (·.response) := by
  unfold answer
  cases o.2 <;> rfl

theorem onPort_eq_named (b : Bridge) (name : String) (run : Nat → Outcome Unit)
    (op : Nat → Operation) (h : ∀ n, b.perform (op n) = answer (run n) fun _ => .done) :
    b.onPort name run = match b.named name op with
      | some o => answer (b.perform o) (·.response)
      | none => (b, (b.onPort name run).2) := by
  unfold onPort named
  cases b.portIndex name with
  | error e => rfl
  | ok i =>
    simp only [h]
    exact answer_response (run i.val) fun _ => .done

/-- A request is its operation, and its response the answer of that. -/
theorem handle_eq (b : Bridge) (r : Request) :
    b.handle r = match b.operation? r with
      | some op => answer (b.perform op) (·.response)
      | none => (b, (b.handle r).2) := by
  cases r with
  | portAdd device defaults =>
    simp only [handle, operation?]
    cases b.network.lookup device with
    | none => rfl
    | some id => exact answer_response (b.portAdd id defaults) .handle
  | portDel device => exact onPort_eq_named b device b.portDel .portDel fun _ => rfl
  | portSetPvid port vid =>
    exact onPort_eq_named b port (b.portSetPvid · vid) (.portSetPvid · vid) fun _ => rfl
  | portSetIngress port defaults =>
    exact onPort_eq_named b port (b.portSetIngress · defaults) (.portSetIngress · defaults)
      fun _ => rfl
  | vlanAttach vid port tagged =>
    exact onPort_eq_named b port (b.vlanAttach vid · tagged) (.vlanAttach vid · tagged) fun _ => rfl
  | vlanDetach vid port =>
    exact onPort_eq_named b port (b.vlanDetach vid ·) (.vlanDetach vid ·) fun _ => rfl
  | vlanSetFlood vid port c enabled =>
    exact onPort_eq_named b port (b.vlanSetFlood vid c · enabled) (.vlanSetFlood vid c · enabled)
      fun _ => rfl
  | vlanSetRouter vid port enabled =>
    exact onPort_eq_named b port (b.vlanSetRouter vid · enabled) (.vlanSetRouter vid · enabled)
      fun _ => rfl
  | fdbFlush port vid origin agedOnly =>
    cases port with
    | none =>
      exact answer_response (b.fdbFlush { vid, origin, agedOnly }) .count
    | some name =>
      simp only [handle, operation?, named]
      cases b.portIndex name with
      | error e => rfl
      | ok i =>
        exact answer_response (b.fdbFlush { port := some i.val, vid, origin, agedOnly }) .count
  | fdbAdd key ports origin =>
    simp only [handle, operation?]
    cases b.portIndices ports with
    | error e => rfl
    | ok is => exact answer_response (b.fdbAdd key (PortSet.ofList is) origin) fun _ => .done
  | vlanAdd vid => exact answer_response (b.vlanAdd vid) fun _ => .done
  | vlanDel vid => exact answer_response (b.vlanDel vid) fun _ => .done
  | vlanSetLearning vid enabled =>
    exact answer_response (b.vlanSetLearning vid enabled) fun _ => .done
  | fdbDel key => exact answer_response (b.fdbDel key) fun _ => .done
  | portList => rfl
  | vlanList => rfl
  | fdbDump => rfl
  | counters => rfl

/-- A request changes the bridge as its operation does. -/
theorem handle_fst (b : Bridge) (r : Request) :
    (b.handle r).1 = match b.operation? r with
      | some op => (b.perform op).1
      | none => b := by
  have h := handle_eq b r
  cases hop : b.operation? r with
  | none =>
    rw [hop] at h
    exact congrArg Prod.fst h
  | some op =>
    rw [hop] at h
    exact congrArg Prod.fst h

theorem named_eq_some {b : Bridge} {name : String} {op : Nat → Operation} {o : Operation}
    (h : b.named name op = some o) : ∃ n, o = op n := by
  unfold named at h
  split at h
  · cases h
    exact ⟨_, rfl⟩
  · cases h

/-- The operation of a request is not of the forwarding table alone, and puts an entry under the key
that the request says. -/
theorem operation?_eq_some {b : Bridge} {r : Request} {op : Operation}
    (h : b.operation? r = some op) : op.IsControl ∧ op.addedKey? = r.addedKey? := by
  cases r with
  | portAdd =>
    obtain ⟨id, -, rfl⟩ := Option.map_eq_some_iff.1 h
    exact ⟨trivial, rfl⟩
  | portDel | portSetPvid | portSetIngress | vlanAttach | vlanDetach | vlanSetFlood
    | vlanSetRouter =>
    simp only [operation?] at h
    obtain ⟨n, rfl⟩ := named_eq_some h
    exact ⟨trivial, rfl⟩
  | fdbFlush port =>
    cases port with
    | none =>
      cases h
      exact ⟨trivial, rfl⟩
    | some name =>
      simp only [operation?] at h
      obtain ⟨n, rfl⟩ := named_eq_some h
      exact ⟨trivial, rfl⟩
  | fdbAdd key ports origin =>
    simp only [operation?] at h
    split at h
    · cases h
      exact ⟨trivial, rfl⟩
    · cases h
  | vlanAdd | vlanDel | vlanSetLearning | fdbDel =>
    cases h
    exact ⟨trivial, rfl⟩
  | portList | vlanList | fdbDump | counters => cases h

end Bridge

end VlanBridge
