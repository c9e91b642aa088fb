import VlanBridge.Proofs.PortRecords
import VlanBridge.Proofs.Refusals
import VlanBridge.Proofs.TableAccess
/-!
# The control operations under numbers

The operations of a bridge as a machine does them. A slot's number comes in from outside, or it is read
out of a table, and words, slots and generations are reached by it. In every state that a bridge can come
into no access fails, and the machine does what the bridge does (`performChecked_eq`). The one exception
is a flush by a number that names no slot (`fdbFlushChecked_of_le`).
-/

namespace VlanBridge.Bridge

open VlanBridge.Net

/-! ### Releases -/

def releaseChecked (b : Bridge) : Release → Access Bridge
  | .entries => return b
  | .vlan serial => return { b with vlans := b.vlans.discard serial }
  | .slot i => do
    let ports ← b.ports.freeChecked i.val
    return { b with ports }

def reclaimChecked (b : Bridge) : Access (Bridge × Nat) := do
  let (s, released) := b.toLearning.reclaim
  let b ← released.foldlM releaseChecked (b.withLearning s)
  return (b, released.length)

def retireChecked (b : Bridge) (r : Release) : Access Bridge := do
  let (b, _) ← ({ b with reclaimer := b.reclaimer.retire r } : Bridge).reclaimChecked
  return b

def settleChecked (b : Bridge) (s : Learning) : Access Bridge := do
  let (b, _) ← (b.withLearning s).reclaimChecked
  return b

/-! ### Ports -/

def portAddChecked (b : Bridge) (id : DeviceId) (ingress : IngressDefaults) :
    Access (Outcome Handle) := do
  match b.network.device? id with
  | none => return (b, .error (.unknownDevice (Text.Number.decimal id)))
  | some d =>
    match ← b.ports.addChecked d id ingress b.config.name with
    | .error e => return (b, .error e)
    | .ok (ports, p) =>
      match d.enslave b.config.name with
      | .error e =>
        match ← ports.removeChecked p.index.val with
        | .error e => return ({ b with ports }, .error e)
        | .ok (ports, p) =>
          let b ← ({ b with ports } : Bridge).retireChecked (.slot p.index)
          return (b, .error (.enslaveRefused e))
      | .ok enslaved =>
        let b : Bridge := { b with ports, network := b.network.modifyDevice id fun _ => enslaved }
        match ← b.vlans.modifyExistingChecked Vid.zero (·.attachChecked p.index.val false) with
        | .error e => return (b, .error e)
        | .ok vlans =>
          let ports ← b.ports.activateChecked p.index.val
          return ({ b with vlans, ports }, .ok p.handle)

def flushDeletedPortChecked (b : Bridge) (n : Nat) : Access Bridge := do
  if b.config.flushOnPortDel then
    let (s, gone) ← b.toLearning.flushChecked (FlushFilter.onPort n) b.clock
    return b.withLearning (s.tally .flushed gone.length)
  else
    let (s, external) ← b.toLearning.flushChecked { port := some n, origin := some .external } b.clock
    let (s, user) ← s.flushChecked { port := some n, origin := some .user } b.clock
    return b.withLearning (s.tally .flushed (external.length + user.length))

def portDelChecked (b : Bridge) (n : Nat) : Access (Outcome Unit) := do
  match ← b.ports.removeChecked n with
  | .error e => return (b, .error e)
  | .ok (ports, p) =>
    let vlans ← b.vlans.detachAllChecked n
    let b ← ({ b with ports, vlans } : Bridge).flushDeletedPortChecked n
    let b ← (b.releaseDevice p).retireChecked (.slot p.index)
    return (b, .ok ())

/-! ### VLANs -/

def vlanDelChecked (b : Bridge) (vid : Vid) : Access (Outcome Unit) := do
  match ← b.vlans.deleteChecked vid with
  | .error e => return (b, .error e)
  | .ok (vlans, gone) =>
    let ports := b.ports.mapPorts fun p => if p.pvid = vid then { p with pvid := Vid.zero } else p
    let (s, flushed) ← b.toLearning.flushChecked { vid := some vid } b.clock
    let s := s.tally .flushed flushed.length
    let b ← ({ b with toLearning := s, ports, vlans } : Bridge).retireChecked (.vlan gone.serial)
    return (b, .ok ())

/-- Changes a VLAN by the number of a port, which has to be installed. -/
def withPortChecked (b : Bridge) (vid : Vid) (n : Nat) (change : Nat → Vlan → Access Vlan) :
    Access (Outcome Unit) := do
  match b.ports.require n with
  | .error e => return (b, .error e)
  | .ok _ =>
    let changed ← b.vlans.modifyExistingChecked vid (change n)
    return b.withVlans changed

def vlanDetachChecked (b : Bridge) (vid : Vid) (n : Nat) : Access (Outcome Unit) := do
  match b.ports.require n with
  | .error e => return (b, .error e)
  | .ok _ =>
    let (vlans, result) ← b.vlans.detachChecked vid n
    return ({ b with vlans }, result)

/-! ### Entries -/

def fdbFlushChecked (b : Bridge) (f : FlushFilter) : Access (Outcome Nat) := do
  let (s, gone) ← b.toLearning.flushChecked f b.clock
  let b ← b.settleChecked (s.tally .flushed gone.length)
  return (b, .ok gone.length)

def fdbAddChecked (b : Bridge) (key : Key) (ports : PortSet) (origin : Origin) :
    Access (Outcome Unit) := do
  match b.vlans.require key.vid with
  | .error e => return (b, .error e)
  | .ok _ =>
    let ns ← ports.membersAt
    match ns.find? fun n => (b.ports.get? n).isNone with
    | some n => return (b, .error (.unknownPort n))
    | none =>
      match b.toLearning.addStatic key ports origin with
      | .error e => return (b, .error e)
      | .ok (s, _) =>
        let b ← b.settleChecked s
        return (b, .ok ())

def fdbDelChecked (b : Bridge) (key : Key) : Access (Outcome Unit) := do
  match b.toLearning.remove key with
  | .error e => return (b, .error e)
  | .ok (s, _) =>
    let b ← b.settleChecked s
    return (b, .ok ())

/-! ### Ageing and shutting down -/

def wakeChecked (b : Bridge) (due : Nat) : Access Bridge := do
  let (s, gone) ← ({ b.toLearning with clock := due } : Learning).flushChecked FlushFilter.aged due
  let swept : Bridge := { b with
    toLearning := s.tally .aged gone.length
    nextSweep := b.nextSweep.map fun alarm => alarm.timer.set due b.sweepPeriod }
  let (b, _) ← swept.reclaimChecked
  return b

def wakesChecked : Nat → Bridge → Access Bridge
  | 0, b => return b
  | n + 1, b =>
    match b.nextSweep with
    | some alarm => do
      let b ← b.wakeChecked alarm.due
      wakesChecked n b
    | none => return b

def sleepChecked (b : Bridge) (ms : Nat) : Access Bridge := do
  let finish := b.clock + ms * 1000000
  let woken ← wakesChecked (b.wakesUntil finish) b
  return { woken with clock := finish }

def shutdownChecked (b : Bridge) : Access Bridge := do
  let devicePorts := (b.ports.list.map (·.index)).filter (· != localPort)
  let b ← devicePorts.foldlM (fun b i => do
    let (b, _) ← b.portDelChecked i.val
    return b) ({ b with nextSweep := none } : Bridge)
  let (b, _) ← b.reclaimChecked
  return b

/-! ### Operations as values -/

/-- Gives the answer of an operation another form. -/
def answerChecked {α β : Type} (o : Access (Outcome α)) (form : α → β) : Access (Outcome β) :=
  (answer · form) <$> o

/-- Operations that are not here reach nothing by a number: settings of ports are in their records, and
those of VLANs too, and both are found by searching. -/
def performChecked (b : Bridge) : Operation → Access (Outcome Operation.Answer)
  | .portAdd device ingress => answerChecked (b.portAddChecked device ingress) .handle
  | .portDel port => answerChecked (b.portDelChecked port) fun _ => .done
  | .vlanDel vid => answerChecked (b.vlanDelChecked vid) fun _ => .done
  | .vlanAttach vid port tagged =>
    answerChecked (b.withPortChecked vid port fun n v => v.attachChecked n tagged) fun _ => .done
  | .vlanDetach vid port => answerChecked (b.vlanDetachChecked vid port) fun _ => .done
  | .vlanSetFlood vid c port enabled =>
    answerChecked (b.withPortChecked vid port fun n v => v.setFloodChecked c n enabled) fun _ => .done
  | .vlanSetRouter vid port enabled =>
    answerChecked (b.withPortChecked vid port fun n v => v.setRouterChecked n enabled) fun _ => .done
  | .fdbFlush filter => answerChecked (b.fdbFlushChecked filter) .count
  | .fdbAdd key ports origin => answerChecked (b.fdbAddChecked key ports origin) fun _ => .done
  | .fdbDel key => answerChecked (b.fdbDelChecked key) fun _ => .done
  | .learn src vid port => do
    let (s, outcome) ← b.toLearning.learnChecked src vid port b.clock
    return (b.withLearning s, .ok (.learned outcome))
  | .reclaim => do
    let (b, n) ← b.reclaimChecked
    return (b, .ok (.count n))
  | .quiesce => do
    let (b, _) ← b.reclaimChecked
    return (b, .ok (.flag (b.reclaimer.pending = 0)))
  | .sleep ms => do
    let b ← b.sleepChecked ms
    return (b, .ok .done)
  | .shutdown => do
    let b ← b.shutdownChecked
    return (b, .ok .done)
  | op => return b.perform op

/-! ### No access of an operation fails -/

variable {b : Bridge}

@[simp] theorem releaseChecked_eq (b : Bridge) (r : Release) :
    b.releaseChecked r = pure (b.release r) := by
  cases r with
  | entries => rfl
  | vlan serial => rfl
  | slot i => simp [releaseChecked, release]

@[simp] theorem reclaimChecked_eq (b : Bridge) : b.reclaimChecked = pure b.reclaim := by
  have hone : releaseChecked = fun b r => pure (b.release r) := by
    funext b r
    exact b.releaseChecked_eq r
  simp only [reclaimChecked, reclaim, hone, List.foldlM_pure, pure_bind]

@[simp] theorem retireChecked_eq (b : Bridge) (r : Release) :
    b.retireChecked r = pure (b.retire r) := by
  simp [retireChecked, retire]

@[simp] theorem settleChecked_eq (b : Bridge) (s : Learning) :
    b.settleChecked s = pure (b.settle s) := by
  simp [settleChecked, settle]

theorem portAddChecked_eq (hb : b.Reachable) (id : DeviceId) (ingress : IngressDefaults) :
    b.portAddChecked id ingress = pure (b.portAdd id ingress) := by
  obtain ⟨hs, hrecords⟩ := hb.sound_records
  unfold portAddChecked portAdd
  cases b.network.device? id with
  | none => rfl
  | some d =>
    simp only [PortTable.addChecked_eq, pure_bind]
    cases hadd : b.ports.add d id ingress b.config.name with
    | error e => rfl
    | ok added =>
      obtain ⟨ports, p⟩ := added
      obtain ⟨i, hi, hinstall⟩ := PortTable.add_eq_ok hadd
      -- the slot was free, and that of the local port never is
      have hlocal : i ≠ localPort := by
        rintro rfl
        obtain ⟨p, hp, -⟩ := hrecords.localRecord
        rw [(hs.of_firstFree? hi).1] at hp
        cases hp
      obtain rfl : ports = (b.ports.install i d.name (.device id) ingress).1 :=
        congrArg Prod.fst hinstall
      obtain rfl : p = (b.ports.install i d.name (.device id) ingress).2 := congrArg Prod.snd hinstall
      simp only [PortTable.index_install]
      cases d.enslave b.config.name with
      | error e =>
        have hremove := b.ports.remove_install hlocal d.name (.device id) ingress
        simp only [PortTable.removeChecked_eq, pure_bind, hremove, retireChecked_eq]
        rfl
      | ok enslaved =>
        have hjoin : b.vlans.modifyExistingChecked Vid.zero (·.attachChecked i.val false) =
            pure (b.vlans.modifyExisting Vid.zero (·.attach i false)) :=
          VlanDb.modifyExistingChecked_of_pure fun v => v.attachChecked_val false
        have hattach := hb.sound_integrity.2.attach_default i false
        rw [VlanDb.attach] at hattach
        simp only [hjoin, hattach, pure_bind, PortTable.activateChecked_val]
        rfl

theorem flushDeletedPortChecked_val (b : Bridge) (i : PortIndex) :
    b.flushDeletedPortChecked i.val = pure (b.flushDeletedPort i) := by
  unfold flushDeletedPortChecked flushDeletedPort
  split
  · rw [Learning.flushChecked_eq (some i) rfl]
    rfl
  · rw [Learning.flushChecked_eq (some i) rfl, pure_bind]
    simp only
    rw [Learning.flushChecked_eq (some i) rfl]
    rfl

/-- The port in a slot knows the number it was deleted by. -/
theorem portDelChecked_eq (hs : b.Sound) (n : Nat) : b.portDelChecked n = pure (b.portDel n) := by
  unfold portDelChecked portDel
  simp only [PortTable.removeChecked_eq, pure_bind]
  cases hremove : b.ports.remove n with
  | error e => rfl
  | ok removed =>
    obtain ⟨ports, p⟩ := removed
    obtain ⟨i, rfl, -, hp, rfl⟩ := PortTable.remove_eq_ok hremove
    obtain rfl := hs.ports.index i p hp
    simp [flushDeletedPortChecked_val, retirePort]

theorem vlanDelChecked_eq (b : Bridge) (vid : Vid) : b.vlanDelChecked vid = pure (b.vlanDel vid) := by
  unfold vlanDelChecked vlanDel
  simp only [VlanDb.deleteChecked_eq, pure_bind]
  cases b.vlans.delete vid with
  | error e => rfl
  | ok deleted =>
    simp only
    rw [Learning.flushChecked_eq none rfl]
    simp

theorem withPortChecked_eq (hs : b.Sound) (vid : Vid) (n : Nat) {change : Nat → Vlan → Access Vlan}
    {f : PortIndex → Vlan → Vlan} (h : ∀ (i : PortIndex) v, change i.val v = pure (f i v)) :
    b.withPortChecked vid n change = pure (b.withPort n fun i => b.vlans.modifyExisting vid (f i)) := by
  unfold withPortChecked withPort
  cases hrequire : b.ports.require n with
  | error e => rfl
  | ok p =>
    obtain ⟨i, rfl, hp⟩ := PortTable.require_eq_ok hrequire
    obtain rfl := hs.ports.index i p hp
    simp only [VlanDb.modifyExistingChecked_of_pure (h p.index), pure_bind]

theorem vlanDetachChecked_eq (hs : b.Sound) (vid : Vid) (n : Nat) :
    b.vlanDetachChecked vid n = pure (b.vlanDetach vid n) := by
  unfold vlanDetachChecked vlanDetach
  cases hrequire : b.ports.require n with
  | error e => rfl
  | ok p =>
    obtain ⟨i, rfl, hp⟩ := PortTable.require_eq_ok hrequire
    obtain rfl := hs.ports.index i p hp
    simp

theorem fdbFlushChecked_eq {f : FlushFilter} (h : ∀ n, f.port = some n → n < maxPorts) :
    b.fdbFlushChecked f = pure (b.fdbFlush f) := by
  have hflush : b.toLearning.flushChecked f b.clock = pure (b.toLearning.flushPort f
      (f.port.bind PortIndex.ofNat?) b.clock) := Learning.flushChecked_eq _ (by
    cases hport : f.port with
    | none => rfl
    | some n => simp [PortIndex.ofNat?, h n hport]) b.clock
  have hmodel : b.toLearning.flush f b.clock = .ok (b.toLearning.flushPort f
      (f.port.bind PortIndex.ofNat?) b.clock) := by
    unfold Learning.flush Fdb.flush
    cases hport : f.port with
    | none => rfl
    | some n => simp [PortIndex.ofNat?, h n hport, Learning.flushPort]
  unfold fdbFlushChecked fdbFlush
  rw [hflush, hmodel]
  simp

theorem fdbAddChecked_eq (b : Bridge) (key : Key) (ports : PortSet) (origin : Origin) :
    b.fdbAddChecked key ports origin = pure (b.fdbAdd key ports origin) := by
  unfold fdbAddChecked fdbAdd missingPort?
  cases b.vlans.require key.vid with
  | error e => rfl
  | ok v =>
    have hmissing : (ports.toNats.find? fun n => (b.ports.get? n).isNone) =
        (ports.toList.find? fun i => (b.ports.port? i).isNone).map (·.val) := by
      rw [PortSet.toNats, List.find?_map]
      simp only [Function.comp_def, PortTable.get?_val]
    simp only [PortSet.membersAt_eq, pure_bind, hmissing]
    cases ports.toList.find? fun i => (b.ports.port? i).isNone with
    | some i => rfl
    | none =>
      cases b.toLearning.addStatic key ports origin with
      | error e => rfl
      | ok added => simp

theorem fdbDelChecked_eq (b : Bridge) (key : Key) : b.fdbDelChecked key = pure (b.fdbDel key) := by
  unfold fdbDelChecked fdbDel
  cases b.toLearning.remove key with
  | error e => rfl
  | ok removed => simp

theorem wakeChecked_eq (b : Bridge) (due : Nat) : b.wakeChecked due = pure (b.wake due) := by
  unfold wakeChecked
  rw [Learning.flushChecked_eq none rfl]
  simp only [pure_bind, reclaimChecked_eq]
  rfl

theorem wakesChecked_eq (n : Nat) (b : Bridge) : wakesChecked n b = pure (wakes n b) := by
  induction n generalizing b with
  | zero => rfl
  | succ n ih =>
    unfold wakesChecked wakes
    cases b.nextSweep with
    | none => rfl
    | some alarm => simp [wakeChecked_eq, ih]

theorem sleepChecked_eq (b : Bridge) (ms : Nat) : b.sleepChecked ms = pure (b.sleep ms) := by
  simp [sleepChecked, sleep, wakesChecked_eq]

theorem shutdownChecked_eq (hs : b.Sound) : b.shutdownChecked = pure b.shutdown := by
  have hports : ∀ (is : List PortIndex) (c : Bridge), c.Sound →
      (is.foldlM (fun b i => do
        let (b, _) ← b.portDelChecked i.val
        return b) c : Access Bridge) = pure (is.foldl (fun b i => (b.portDel i.val).1) c) := by
    intro is
    induction is with
    | nil => exact fun _ _ => rfl
    | cons i is ih =>
      intro c hc
      rw [List.foldlM_cons, portDelChecked_eq hc, pure_bind]
      exact ih _ (hc.path (portDel_path c i.val))
  have hstop : Path b { b with nextSweep := none } := Aside.path ⟨rfl, rfl, rfl, rfl, rfl⟩
  simp only [shutdownChecked, hports _ _ (hs.path hstop), pure_bind, reclaimChecked_eq]
  rfl

theorem answerChecked_pure {α β : Type} (o : Outcome α) (form : α → β) :
    answerChecked (pure o) form = pure (answer o form) := rfl

/-- In every state that a bridge can come into, no access of an operation fails, and the machine does what
the bridge does. A flush is by no port or by the number of a slot. -/
theorem performChecked_eq (hb : b.Reachable) {op : Operation} (hop : op.IsControl)
    (hflush : ∀ f n, op = .fdbFlush f → f.port = some n → n < maxPorts) :
    b.performChecked op = pure (b.perform op) := by
  have hs := hb.sound
  cases op with
  | portAdd device ingress => rw [performChecked, portAddChecked_eq hb, answerChecked_pure, perform]
  | portDel port => rw [performChecked, portDelChecked_eq hs, answerChecked_pure, perform]
  | vlanDel vid => rw [performChecked, vlanDelChecked_eq, answerChecked_pure, perform]
  | vlanAttach vid port tagged =>
    rw [performChecked, withPortChecked_eq hs vid port fun i v => v.attachChecked_val tagged,
      answerChecked_pure]
    rfl
  | vlanDetach vid port => rw [performChecked, vlanDetachChecked_eq hs, answerChecked_pure, perform]
  | vlanSetFlood vid c port enabled =>
    rw [performChecked, withPortChecked_eq hs vid port fun i v => v.setFloodChecked_val c enabled,
      answerChecked_pure]
    rfl
  | vlanSetRouter vid port enabled =>
    rw [performChecked, withPortChecked_eq hs vid port fun i v => v.setRouterChecked_val enabled,
      answerChecked_pure]
    rfl
  | fdbFlush filter =>
    rw [performChecked, fdbFlushChecked_eq fun n => hflush filter n rfl, answerChecked_pure, perform]
  | fdbAdd key ports origin => rw [performChecked, fdbAddChecked_eq, answerChecked_pure, perform]
  | fdbDel key => rw [performChecked, fdbDelChecked_eq, answerChecked_pure, perform]
  | learn => exact hop.elim
  | reclaim => rw [performChecked, reclaimChecked_eq, pure_bind, perform]
  | quiesce =>
    rw [performChecked, reclaimChecked_eq, pure_bind]
    rfl
  | sleep ms => rw [performChecked, sleepChecked_eq, pure_bind, perform]
  | shutdown => rw [performChecked, shutdownChecked_eq hs, pure_bind, perform]
  | portSetPvid | portSetIngress | vlanAdd | vlanSetLearning | startAgeing => rfl

/-- A flush by a number that names no slot fails as soon as an entry meets the other criteria of its
filter. -/
theorem fdbFlushChecked_of_le {f : FlushFilter} {n : Nat} (hport : f.port = some n)
    (hn : maxPorts ≤ n) :
    b.fdbFlushChecked f =
      if b.fdb.entries.any (·.covered f b.fdb.ageing (stamp b.clock)) then
        throw (.index n maxPorts)
      else pure (b.fdbFlush f) := by
  have hnone : PortIndex.ofNat? n = none := PortIndex.ofNat?_eq_none.2 hn
  unfold fdbFlushChecked fdbFlush Learning.flushChecked Learning.flush Fdb.flush
  rw [Fdb.flushChecked_of_le hport hn, hport]
  simp only [hnone]
  split
  · rfl
  · simp

end VlanBridge.Bridge
