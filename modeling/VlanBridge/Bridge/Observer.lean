import VlanBridge.Bridge.Forward
/-!
# Forwarding under observation

A device that is handed a frame, or a control plane that takes one, may use the bridge itself before
it comes back: it may delete ports, change VLANs, or send further frames. An `Observer` says what
they do to the state that the bridge is part of. `receiveIn` is the way of one frame under an
observer; `receiveIn_silent` says that it is `receive` if the observer does nothing.
-/

namespace VlanBridge

open VlanBridge.Net

/-- What happens in a state that a bridge is part of while a frame is on its way. -/
structure Observer (σ : Type) where
  bridge : σ → Bridge
  withBridge : σ → Bridge → σ
  /-- The trap has taken a frame. -/
  onTrapped : (ingress : PortIndex) → (vid : Vid) → (frame : Frame) → σ → σ
  /-- A device is about to be handed a frame. -/
  onHandOver : (device : DeviceId) → σ → σ

namespace Observer

variable {σ : Type}

def silent : Observer Bridge where
  bridge b := b
  withBridge _ b := b
  onTrapped _ _ _ b := b
  onHandOver _ b := b

/-- Sends the frame of a flight to one port. The frame is made before the device is told of it. -/
def send (o : Observer σ) (s : σ) (flight : Flight) (p : Port) : σ × Emission :=
  let f := (o.bridge s).outgoing flight p.index
  let s := match p.device? with
    | some id => o.onHandOver id s
    | none => s
  let (b, accepted) := (o.bridge s).handOver p f
  (o.withBridge s b, ⟨p.index, f, accepted⟩)

/-- Sends the frame of a flight to some ports in turn. -/
def sendAll (o : Observer σ) (flight : Flight) : List Port → σ → σ × List Emission
  | [], s => (s, [])
  | p :: ps, s =>
    let (s, e) := o.send s flight p
    let (s, es) := o.sendAll flight ps s
    (s, e :: es)

def receiveIn (o : Observer σ) (s : σ) (h : Handle) (f : Frame) : σ × Reception :=
  let (b, guard) := (o.bridge s).enter
  let (b, admission) := b.assess h f
  let s := o.withBridge s b
  let finish (s : σ) (r : Reception) : σ × Reception :=
    (o.withBridge s ((o.bridge s).leave guard r.verdict), r)
  match admission with
  | .dropped reason => finish s { verdict := .dropped reason }
  | .trapped ingress vid f =>
    let s := o.onTrapped ingress vid f s
    finish (o.withBridge s ((o.bridge s).count .trapped))
      { verdict := .trapped, trapped := some (ingress, vid, f) }
  | .forward flight =>
    let (s, sent) := o.sendAll flight flight.targets s
    finish s { verdict := Bridge.verdictOf sent, sent }

theorem send_silent (b : Bridge) (flight : Flight) (p : Port) :
    silent.send b flight p = b.send flight p := by
  unfold send Bridge.send
  cases h : p.device? <;> rfl

theorem sendAll_silent (flight : Flight) (ps : List Port) (b : Bridge) :
    silent.sendAll flight ps b = Bridge.sendAll flight ps b := by
  induction ps generalizing b with
  | nil => rfl
  | cons p ps ih =>
    unfold sendAll Bridge.sendAll
    rw [send_silent]
    simp only [ih]

/-- Without anything that happens beside it, this is the way of a frame. -/
theorem receiveIn_silent (b : Bridge) (h : Handle) (f : Frame) :
    silent.receiveIn b h f = b.receive h f := by
  unfold receiveIn Bridge.receive
  simp only [silent]
  cases ha : b.enter.1.assess h f with
  | mk c admission =>
    cases admission with
    | dropped reason => simp only
    | trapped ingress vid f => simp only
    | forward flight =>
      simp only
      rw [← sendAll_silent]
      rfl

end Observer

end VlanBridge
