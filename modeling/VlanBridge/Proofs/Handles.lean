import VlanBridge.Proofs.PortRecords
/-!
# Handles that have gone

The generation of a slot never goes back, and a port that is in a slot later is either there already or
of a later generation (`PortTable.Later`). So no handle is answered twice in a run (`nodup_handles`), and
a handle whose port has gone stays without one, whatever ports come into the slot (`Later.gone`).
-/

namespace VlanBridge

open VlanBridge.Net

namespace PortTable

structure Later (t u : PortTable) : Prop where
  generation : ∀ i, t.generation i ≤ u.generation i
  ports : ∀ i p, u.port? i = some p →
    t.generation i < p.generation ∨ ∃ q, t.port? i = some q ∧ q.fixed = p.fixed

/-- The port of a handle has gone, and a later one in its slot is of a later generation. -/
def Gone (t : PortTable) (h : Handle) : Prop :=
  ∀ i : PortIndex, i.val = h.index →
    h.generation ≤ t.generation i ∧ ∀ p, t.port? i = some p → p.generation ≠ h.generation

variable {t u v : PortTable} {bridgeName : String} {h : Handle}

theorem generation_eq_of_fixed_eq {p q : Port} (h : p.fixed = q.fixed) :
    p.generation = q.generation := congrArg (·.1.generation) h

theorem Later.refl (t : PortTable) : Later t t :=
  ⟨fun _ => Nat.le_refl _, fun _ p hp => Or.inr ⟨p, hp, rfl⟩⟩

theorem Later.trans (htu : Later t u) (huv : Later u v) : Later t v := by
  refine ⟨fun i => Nat.le_trans (htu.generation i) (huv.generation i), ?_⟩
  intro i p hp
  have hle := htu.generation i
  rcases huv.ports i p hp with hlt | ⟨q, hq, hqp⟩
  · exact Or.inl (by omega)
  · have hsame := generation_eq_of_fixed_eq hqp
    rcases htu.ports i q hq with hlt | ⟨r, hr, hrq⟩
    · exact Or.inl (by omega)
    · exact Or.inr ⟨r, hr, hrq.trans hqp⟩

theorem Change.later (h : Change bridgeName t u) : Later t u := by
  cases h with
  | kept fixed generation later =>
    refine ⟨later, ?_⟩
    intro i p hp
    exact Or.inr (exists_of_fixed (fixed i) hp)
  | @added i name endpoint ingress hi hname hu =>
    have hport := fun j => port?_install t i j name endpoint ingress
    have hgeneration := fun j => generation_install t i j name endpoint ingress
    rw [hu]
    refine ⟨?_, ?_⟩
    · intro j
      show t.generation j ≤ (t.install i name endpoint ingress).1.generation j
      rw [hgeneration]
      split
      · rename_i hij
        rw [hij]
        exact Nat.le_succ _
      · exact Nat.le_refl _
    · intro j p hp
      have hp : (t.install i name endpoint ingress).1.port? j = some p := hp
      rw [hport] at hp
      split at hp
      · rename_i hij
        cases hp
        cases hij
        exact Or.inl (Nat.lt_succ_self _)
      · exact Or.inr ⟨p, hp, rfl⟩
  | @removed i hlocal hu =>
    rw [hu]
    refine ⟨fun _ => Nat.le_refl _, ?_⟩
    intro j p hp
    rw [port?_clear] at hp
    split at hp
    · cases hp
    · exact Or.inr ⟨p, hp, rfl⟩

/-! ### Resolving -/

theorem resolve_eq_ok_iff {p : Port} :
    t.resolve h = .ok p ↔
      ∃ i, i.val = h.index ∧ t.port? i = some p ∧ p.generation = h.generation := by
  constructor
  · intro hok
    obtain ⟨i, hi, hp⟩ := resolve_eq_ok hok
    refine ⟨i, hi, hp, ?_⟩
    unfold resolve at hok
    rw [← hi, get?_val, hp] at hok
    simp only at hok
    split at hok
    · assumption
    · cases hok
  · rintro ⟨i, hi, hp, hgeneration⟩
    unfold resolve
    rw [← hi, get?_val, hp]
    simp only [hgeneration, if_true]

theorem resolve_of_forall_ne (hn : ∀ p, t.resolve h ≠ .ok p) :
    t.resolve h = .error (.unknownHandle h) := by
  unfold resolve at hn ⊢
  split
  · rename_i p hp
    split
    · rename_i hgeneration
      have hne := hn p
      simp only [hp, hgeneration, if_true, ne_eq, not_true_eq_false] at hne
    · rfl
  · rfl

theorem Gone.resolve (hg : t.Gone h) : t.resolve h = .error (.unknownHandle h) := by
  refine resolve_of_forall_ne ?_
  intro p hok
  obtain ⟨i, hi, hp, hgeneration⟩ := resolve_eq_ok_iff.1 hok
  exact (hg i hi).2 p hp hgeneration

theorem Later.gone (hl : Later t u) (hg : t.Gone h) : u.Gone h := by
  intro i hi
  obtain ⟨hle, hnone⟩ := hg i hi
  have hgeneration := hl.generation i
  refine ⟨by omega, ?_⟩
  intro p hp
  -- a port that has come since is of a later generation, and the one from before is not the handle's
  rcases hl.ports i p hp with hlt | ⟨q, hq, hqp⟩
  · omega
  · rw [← generation_eq_of_fixed_eq hqp]
    exact hnone q hq

theorem Later.gone_of_resolve (hl : Later t u) (hr : t.Records bridgeName) {p : Port}
    (hp : t.resolve h = .ok p) (hn : ∀ q, u.resolve h ≠ .ok q) : u.Gone h := by
  obtain ⟨i, hi, hp, hgeneration⟩ := resolve_eq_ok_iff.1 hp
  have hsame := hr.generation_eq hp
  intro j hj
  cases Fin.ext (hi.trans hj.symm)
  have hle := hl.generation i
  refine ⟨by omega, ?_⟩
  intro q hq hqh
  exact hn q (resolve_eq_ok_iff.2 ⟨i, hi, hq, hqh⟩)

end PortTable

namespace Bridge

variable {b : Bridge} {guards : List Guard}

theorem Sound.later_path {c : Bridge} (hs : b.Sound guards) (h : Path b c) :
    b.ports.Later c.ports := by
  induction h with
  | refl => exact .refl _
  | tail hpath hlast ih => exact ih.trans (hlast.change (hs.path hpath)).later

theorem Sound.later_run (hs : b.Sound guards) (events : List Event) :
    b.ports.Later (b.run events).ports := by
  induction events generalizing b with
  | nil => exact .refl _
  | cons e es ih =>
    have hnext := next_path b e
    exact (hs.later_path hnext).trans (ih (hs.path hnext))

/-! ### Handles that are answered -/

/-- The handle that is answered to an event by which a port is added. -/
def handed? (b : Bridge) : Event → Option Handle
  | .perform op _ =>
    match (b.perform op).2 with
    | .ok (.handle h) => some h
    | _ => none
  | .request r =>
    match (b.handle r).2 with
    | .ok (.portAdded h) => some h
    | _ => none
  | _ => none

/-- The handles that are answered in a run. -/
def handles (b : Bridge) : List Event → List Handle
  | [] => []
  | e :: es => (b.handed? e).toList ++ (b.next e).handles es

theorem answer_eq_ok {α β : Type} {o : Outcome α} {form : α → β} {y : β}
    (h : (answer o form).2 = .ok y) : ∃ x, o.2 = .ok x ∧ form x = y := by
  unfold answer at h
  simp only at h
  split at h
  · rename_i x hx
    exact ⟨x, hx, Except.ok.inj h⟩
  · cases h

theorem perform_eq_handle {op : Operation} {h : Handle} (hok : (b.perform op).2 = .ok (.handle h)) :
    ∃ id ingress, op = .portAdd id ingress ∧ (b.portAdd id ingress).2 = .ok h := by
  cases op with
  | portAdd id ingress =>
    obtain ⟨k, hk, hkh⟩ := answer_eq_ok hok
    cases hkh
    exact ⟨id, ingress, rfl, hk⟩
  | portDel | portSetPvid | portSetIngress | vlanAdd | vlanDel | vlanAttach | vlanDetach
    | vlanSetLearning | vlanSetFlood | vlanSetRouter | fdbFlush | fdbAdd | fdbDel | learn
    | startAgeing =>
    obtain ⟨x, -, hx⟩ := answer_eq_ok hok
    cases hx
  | reclaim | quiesce | sleep | shutdown => cases hok

theorem onPort_eq_ok {name : String} {run : Nat → Outcome Unit} {r : Response}
    (h : (b.onPort name run).2 = .ok r) : r = .done := by
  unfold onPort at h
  split at h
  · cases h
  · obtain ⟨_, -, hr⟩ := answer_eq_ok h
    exact hr.symm

theorem handle_eq_portAdded {r : Request} {h : Handle} (hok : (b.handle r).2 = .ok (.portAdded h)) :
    ∃ id ingress, b.handle r = answer (b.portAdd id ingress) .portAdded ∧
      (b.portAdd id ingress).2 = .ok h := by
  cases r with
  | portAdd device ingress =>
    simp only [handle] at hok ⊢
    split at hok
    · cases hok
    · rename_i id _
      obtain ⟨k, hk, hkh⟩ := answer_eq_ok hok
      cases hkh
      exact ⟨id, ingress, rfl, hk⟩
  | portDel | portSetPvid | portSetIngress | vlanAttach | vlanDetach | vlanSetFlood
    | vlanSetRouter => cases onPort_eq_ok hok
  | vlanAdd | vlanDel | vlanSetLearning | fdbDel =>
    obtain ⟨x, -, hx⟩ := answer_eq_ok hok
    cases hx
  | fdbFlush port vid origin agedOnly =>
    simp only [handle] at hok
    split at hok
    · obtain ⟨x, -, hx⟩ := answer_eq_ok hok
      cases hx
    · split at hok
      · cases hok
      · obtain ⟨x, -, hx⟩ := answer_eq_ok hok
        cases hx
  | fdbAdd key ports origin =>
    simp only [handle] at hok
    split at hok
    · cases hok
    · obtain ⟨x, -, hx⟩ := answer_eq_ok hok
      cases hx
  | portList | vlanList | fdbDump | counters => cases hok

theorem handed?_eq_some {e : Event} {h : Handle} (he : b.handed? e = some h) :
    ∃ id ingress, (b.portAdd id ingress).2 = .ok h ∧ b.next e = (b.portAdd id ingress).1 := by
  cases e with
  | perform op control =>
    simp only [handed?] at he
    split at he
    · rename_i k hk
      cases he
      obtain ⟨id, ingress, rfl, hok⟩ := perform_eq_handle hk
      exact ⟨id, ingress, hok, rfl⟩
    · cases he
  | request r =>
    simp only [handed?] at he
    split at he
    · rename_i k hk
      cases he
      obtain ⟨id, ingress, hr, hok⟩ := handle_eq_portAdded hk
      exact ⟨id, ingress, hok, congrArg Prod.fst hr⟩
    · cases he
  | _ => cases he

/-- A device that becomes a port is enslaved, and its port is put into the first free slot and joins
VLAN 0. -/
theorem portAdd_eq_joined {id : DeviceId} {ingress : IngressDefaults} {h : Handle}
    (hok : (b.portAdd id ingress).2 = .ok h) :
    ∃ i d e, b.ports.busy.firstFree? = some i ∧ b.network.device? id = some d ∧
      d.enslave b.config.name = .ok e ∧ h = ⟨i.val, b.ports.generation i + 1⟩ ∧
      (b.portAdd id ingress).1 = ({ b with
        ports := (b.ports.install i d.name (.device id) ingress).1
        network := b.network.modifyDevice id fun _ => e } : Bridge).joinDefaultVlan i := by
  unfold portAdd at hok ⊢
  cases hd : b.network.device? id with
  | none =>
    simp only [hd] at hok
    cases hok
  | some d =>
    cases hadd : b.ports.add d id ingress b.config.name with
    | error e =>
      simp only [hd, hadd] at hok
      cases hok
    | ok out =>
      obtain ⟨ports, p⟩ := out
      obtain ⟨i, hi, he⟩ := PortTable.add_eq_ok hadd
      obtain ⟨rfl, rfl⟩ := Prod.mk.inj he
      cases henslave : d.enslave b.config.name with
      | error e =>
        simp only [hd, hadd, henslave] at hok
        cases hok
      | ok e =>
        simp only [hd, hadd, henslave] at hok ⊢
        cases hok
        exact ⟨i, d, e, hi, rfl, henslave, rfl, rfl⟩

/-- A port that is added gets the first free slot, and its generation is the next of that slot. -/
theorem portAdd_eq_ok {id : DeviceId} {ingress : IngressDefaults} {h : Handle}
    (hok : (b.portAdd id ingress).2 = .ok h) :
    ∃ i, b.ports.busy.firstFree? = some i ∧ h = ⟨i.val, b.ports.generation i + 1⟩ ∧
      (b.portAdd id ingress).1.ports.generation i = h.generation := by
  obtain ⟨i, d, e, hi, -, -, hh, hjoined⟩ := portAdd_eq_joined hok
  have hgeneration := PortTable.generation_install b.ports i i d.name (.device id) ingress
  rw [if_pos rfl] at hgeneration
  refine ⟨i, hi, hh, ?_⟩
  rw [hjoined, hh]
  exact hgeneration

theorem Sound.generation_of_mem_handles (hs : b.Sound) {events : List Event} {h : Handle}
    (hh : h ∈ b.handles events) :
    ∃ i : PortIndex, i.val = h.index ∧ b.ports.generation i < h.generation := by
  induction events generalizing b with
  | nil => cases hh
  | cons e es ih =>
    rcases List.mem_append.1 hh with hh | hh
    · obtain ⟨id, ingress, hok, -⟩ := handed?_eq_some (Option.mem_toList.1 hh)
      obtain ⟨i, -, rfl, -⟩ := portAdd_eq_ok hok
      exact ⟨i, rfl, Nat.lt_succ_self _⟩
    · have hnext := next_path b e
      obtain ⟨i, hi, hlt⟩ := ih (hs.path hnext) hh
      have hle := (hs.later_path hnext).generation i
      exact ⟨i, hi, by omega⟩

theorem Sound.nodup_handles (hs : b.Sound) (events : List Event) : (b.handles events).Nodup := by
  induction events generalizing b with
  | nil => exact List.nodup_nil
  | cons e es ih =>
    have hnext := hs.path (next_path b e)
    refine List.nodup_append.2 ⟨?_, ih hnext, ?_⟩
    · cases b.handed? e <;> simp
    · intro h hh k hk
      rintro rfl
      obtain ⟨id, ingress, hok, hadd⟩ := handed?_eq_some (Option.mem_toList.1 hh)
      obtain ⟨i, -, rfl, hgeneration⟩ := portAdd_eq_ok hok
      obtain ⟨j, hj, hlt⟩ := hnext.generation_of_mem_handles hk
      -- what is answered later is of a later generation than the port that has just been added
      cases Fin.ext hj
      rw [hadd, hgeneration] at hlt
      exact absurd hlt (Nat.lt_irrefl _)

/-! ### Handles whose port has gone -/

/-- A handle does not lead anywhere, and a frame that comes in with it is dropped and counted. -/
structure Ignores (b : Bridge) (h : Handle) : Prop where
  unresolved : b.ports.resolve h = .error (.unknownHandle h)
  dropped : ∀ f, b.receive h f = ({ b with counters := { b.counters with
    rxFrames := b.counters.rxFrames + 1
    dropPortInactive := b.counters.dropPortInactive + 1 } }, { verdict := .dropped .portInactive })

theorem ignores_of_gone {h : Handle} (hg : b.ports.Gone h) : b.Ignores h := by
  refine ⟨hg.resolve, ?_⟩
  intro f
  have hresolve : b.enter.1.ports.resolve h = .error (.unknownHandle h) := hg.resolve
  have hassess : b.enter.1.assess h f = (b.enter.1, .dropped .portInactive) := by
    unfold assess
    rw [hresolve]
  have hback : b.enter.1.reclaimer.unpin b.enter.2 = b.reclaimer := b.reclaimer.unpin_pin
  unfold receive
  simp only [hassess]
  unfold leave
  rw [hback]
  rfl

theorem unresolved_portDel {h : Handle} (hok : (b.portDel h.index).2 = .ok ()) (q : Port) :
    (b.portDel h.index).1.ports.resolve h ≠ .ok q := by
  intro hq
  obtain ⟨i, hi, hport, -⟩ := PortTable.resolve_eq_ok_iff.1 hq
  obtain ⟨j, hj, -, hnone⟩ := portDel_eq_ok hok
  cases Fin.ext (hj.trans hi.symm)
  rw [hnone] at hport
  cases hport

/-- In a run no handle is answered twice, and the slot of a handle is the lowest one that is not busy.
Once a port has been deleted, or has gone otherwise, its handle is ignored for good. The handle of the
local port always leads to it. -/
theorem handles_never_again (hb : b.Reachable) :
    (∀ events, (b.handles events).Nodup) ∧
    (∀ e h, b.handed? e = some h →
      ∃ i, h.index = i.val ∧ i ∉ b.ports.busy ∧ ∀ j < i, j ∈ b.ports.busy) ∧
    (∀ h p, b.ports.resolve h = .ok p → (b.portDel h.index).2 = .ok () →
      ∀ events, ((b.portDel h.index).1.run events).Ignores h) ∧
    (∀ h p events, b.ports.resolve h = .ok p → (∀ q, (b.run events).ports.resolve h ≠ .ok q) →
      ∀ later, ((b.run events).run later).Ignores h) ∧
    ∃ p, b.ports.resolve localHandle = .ok p ∧ p.name = b.config.name := by
  obtain ⟨hs, hr⟩ := hb.sound_records
  refine ⟨hs.nodup_handles, ?_, ?_, ?_, ?_⟩
  · intro e h he
    obtain ⟨id, ingress, hok, -⟩ := handed?_eq_some he
    obtain ⟨i, hi, rfl, -⟩ := portAdd_eq_ok hok
    exact ⟨i, rfl, PortSet.firstFree?_eq_some hi, fun j hj => PortSet.mem_of_lt_firstFree? hi hj⟩
  · intro h p hp hok events
    have hpath := portDel_path b h.index
    have hgone := (hs.later_path hpath).gone_of_resolve hr hp (unresolved_portDel hok)
    exact ignores_of_gone (((hs.path hpath).later_run events).gone hgone)
  · intro h p events hp hn later
    have hgone := (hs.later_run events).gone_of_resolve hr hp hn
    exact ignores_of_gone (((hb.run events).sound.later_run later).gone hgone)
  · obtain ⟨p, hp, hfixed⟩ := hr.localRecord
    have hgeneration : p.generation = 1 := congrArg (·.1.generation) hfixed
    have hname : p.name = b.config.name := congrArg (·.2.1) hfixed
    exact ⟨p, PortTable.resolve_eq_ok_iff.2 ⟨localPort, rfl, hp, hgeneration⟩, hname⟩

/-- The handle of a deleted port is ignored though another port has come into its slot. -/
theorem handles_never_again_reused :
    let start := beside ["eth0", "eth1"]
    let b := start.next (.request (.portAdd "eth0" {}))
    let c := (b.portDel 1).1.run [.request (.portAdd "eth1" {})]
    b.Reachable ∧ start.handles [.request (.portAdd "eth0" {}), .request (.portDel "eth0"),
      .request (.portAdd "eth1" {})] = [⟨1, 1⟩, ⟨1, 2⟩] ∧
    c.Ignores ⟨1, 1⟩ := by
  intro start b c
  have hb : b.Reachable := (reachable_beside _).next _
  let p : Port := ⟨1, 1, "eth0", .device 0, Vid.zero, {}⟩
  have hp : b.ports.resolve ⟨1, 1⟩ = .ok p := by decide +kernel
  have hok : (b.portDel 1).2 = .ok () := by decide +kernel
  obtain ⟨-, -, hdeleted, -⟩ := handles_never_again hb
  exact ⟨hb, by decide +kernel, hdeleted ⟨1, 1⟩ p hp hok _⟩

end Bridge

end VlanBridge
