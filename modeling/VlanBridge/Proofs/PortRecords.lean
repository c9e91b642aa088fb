import VlanBridge.Proofs.Bookkeeping
/-!
# The ports in the slots

To the ports of a table a transition does one of three things (`PortTable.Change`): it leaves them in
their slots, puts one into a free slot under a new name, or takes out one that is not the local port.
So the slots of a bridge always hold what `PortTable.Records` says.
-/

namespace VlanBridge

open VlanBridge.Net

namespace PortTable

/-- What one transition does to the ports of a table. -/
inductive Change (bridgeName : String) (t u : PortTable) : Prop where
  | kept (fixed : ∀ j, (u.port? j).map Port.fixed = (t.port? j).map Port.fixed)
      (generation : ∀ j, t.Holds j → u.generation j = t.generation j)
      (later : ∀ j, t.generation j ≤ u.generation j)
  | added {i : PortIndex} {name : String} (endpoint : Endpoint) (ingress : IngressDefaults)
      (hi : t.port? i = none) (hname : t.findByName name = none ∧ name ≠ bridgeName)
      (hu : u = (t.install i name endpoint ingress).1.activate i)
  | removed {i : PortIndex} (hlocal : i ≠ localPort) (hu : u = t.clear i)

variable {t u : PortTable} {bridgeName : String}

theorem Change.refl (bridgeName : String) (t : PortTable) : Change bridgeName t t :=
  .kept (fun _ => rfl) (fun _ _ => rfl) fun _ => Nat.le_refl _

theorem Change.of_port?_eq (hports : ∀ j, u.port? j = t.port? j)
    (hgeneration : ∀ j, u.generation j = t.generation j) : Change bridgeName t u := by
  refine .kept ?_ ?_ ?_
  · intro j
    rw [hports]
  · intro j _
    exact hgeneration j
  · intro j
    exact Nat.le_of_eq (hgeneration j).symm

theorem Change.portRefused {i : PortIndex} (hi : t.port? i = none) (name : String)
    (endpoint : Endpoint) (ingress : IngressDefaults) :
    Change bridgeName t ((t.install i name endpoint ingress).1.clear i) := by
  have hgeneration : ∀ j, ((t.install i name endpoint ingress).1.clear i).generation j =
      if i = j then t.generation i + 1 else t.generation j :=
    fun j => generation_install t i j name endpoint ingress
  refine .kept ?_ ?_ ?_
  · intro j
    rw [port?_install_clear hi]
  · intro j hj
    have hne : i ≠ j := by
      rintro rfl
      rw [Holds, hi] at hj
      cases hj
    rw [hgeneration, if_neg hne]
  · intro j
    rw [hgeneration]
    split
    · rename_i hij
      rw [hij]
      exact Nat.le_succ _
    · exact Nat.le_refl _

theorem Change.modify (i : PortIndex) {f : Port → Port} (hf : ∀ p, (f p).fixed = p.fixed) :
    Change bridgeName t (t.modify i f) := by
  refine .kept ?_ (fun _ _ => rfl) fun _ => Nat.le_refl _
  intro j
  rw [port?_modify]
  split
  · rw [Option.map_map]
    congr 1
    funext p
    exact hf p
  · rfl

theorem Change.mapPorts {f : Port → Port} (hf : ∀ p, (f p).fixed = p.fixed) :
    Change bridgeName t (t.mapPorts f) := by
  refine .kept ?_ (fun _ _ => rfl) fun _ => Nat.le_refl _
  intro j
  rw [port?_mapPorts, Option.map_map]
  congr 1
  funext p
  exact hf p

theorem exists_of_fixed {j : PortIndex} {p : Port}
    (fixed : (u.port? j).map Port.fixed = (t.port? j).map Port.fixed) (hp : u.port? j = some p) :
    ∃ q, t.port? j = some q ∧ q.fixed = p.fixed := by
  rw [hp, Option.map_some] at fixed
  exact Option.map_eq_some_iff.1 fixed.symm

/-! ### What the slots hold -/

structure Records (t : PortTable) (bridgeName : String) : Prop where
  localRecord : ∃ p, t.port? localPort = some p ∧
    p.fixed = (⟨localPort.val, 1⟩, bridgeName, .localStack)
  handles : ∀ i p, t.port? i = some p → p.handle = ⟨i.val, t.generation i⟩
  names : ∀ i j p q, t.port? i = some p → t.port? j = some q → p.name = q.name → i = j

theorem Records.index (hr : t.Records bridgeName) {i : PortIndex} {p : Port}
    (hp : t.port? i = some p) : p.index = i :=
  Fin.ext (congrArg Handle.index (hr.handles i p hp))

theorem Records.generation_eq (hr : t.Records bridgeName) {i : PortIndex} {p : Port}
    (hp : t.port? i = some p) : p.generation = t.generation i :=
  congrArg Handle.generation (hr.handles i p hp)

theorem Records.name_eq_iff (hr : t.Records bridgeName) {i : PortIndex} {p : Port}
    (hp : t.port? i = some p) : p.name = bridgeName ↔ i = localPort := by
  obtain ⟨q, hq, hfixed⟩ := hr.localRecord
  have hname : q.name = bridgeName := congrArg (·.2.1) hfixed
  constructor
  · intro h
    exact hr.names i localPort p q hp hq (h.trans hname.symm)
  · rintro rfl
    rw [hp] at hq
    cases hq
    exact hname

/-- A name that is neither found nor the bridge's is no port's. -/
theorem Records.not_named (hr : t.Records bridgeName) {name : String}
    (hname : t.findByName name = none ∧ name ≠ bridgeName) {i : PortIndex} {p : Port}
    (hp : t.port? i = some p) : p.name ≠ name := by
  rintro rfl
  have hlocal : i ≠ localPort := fun h => hname.2 ((hr.name_eq_iff hp).2 h)
  have hnone := List.find?_eq_none.1 hname.1 p (mem_list.2 ⟨i, hp⟩)
  rw [hr.index hp] at hnone
  simp only [bne_iff_ne, beq_self_eq_true, Bool.and_true, ne_eq, Decidable.not_not] at hnone
  exact hlocal hnone

theorem Records.kept (hr : t.Records bridgeName)
    (fixed : ∀ j, (u.port? j).map Port.fixed = (t.port? j).map Port.fixed)
    (generation : ∀ j, t.Holds j → u.generation j = t.generation j) : u.Records bridgeName := by
  refine ⟨?_, ?_, ?_⟩
  · obtain ⟨p, hp, hlocal⟩ := hr.localRecord
    obtain ⟨q, hq, hqp⟩ := exists_of_fixed (fixed localPort).symm hp
    exact ⟨q, hq, hqp.trans hlocal⟩
  · intro i p hp
    obtain ⟨q, hq, hqp⟩ := exists_of_fixed (fixed i) hp
    have hhandle : q.handle = p.handle := congrArg (·.1) hqp
    rw [← hhandle, generation i (holds_iff.2 ⟨q, hq⟩), hr.handles i q hq]
  · intro i j p q hp hq hname
    obtain ⟨p', hp', hpp⟩ := exists_of_fixed (fixed i) hp
    obtain ⟨q', hq', hqq⟩ := exists_of_fixed (fixed j) hq
    have hpn : p'.name = p.name := congrArg (·.2.1) hpp
    have hqn : q'.name = q.name := congrArg (·.2.1) hqq
    exact hr.names i j p' q' hp' hq' (by rw [hpn, hqn, hname])

theorem Records.added (hr : t.Records bridgeName) {i : PortIndex} {name : String}
    (endpoint : Endpoint) (ingress : IngressDefaults) (hi : t.port? i = none)
    (hname : t.findByName name = none ∧ name ≠ bridgeName) :
    ((t.install i name endpoint ingress).1.activate i).Records bridgeName := by
  have hport : ∀ j, ((t.install i name endpoint ingress).1.activate i).port? j =
      if i = j then some (t.install i name endpoint ingress).2 else t.port? j :=
    fun j => port?_install t i j name endpoint ingress
  have hgeneration : ∀ j, ((t.install i name endpoint ingress).1.activate i).generation j =
      if i = j then t.generation i + 1 else t.generation j :=
    fun j => generation_install t i j name endpoint ingress
  refine ⟨?_, ?_, ?_⟩
  · obtain ⟨p, hp, hlocal⟩ := hr.localRecord
    have hne : i ≠ localPort := by
      rintro rfl
      rw [hi] at hp
      cases hp
    exact ⟨p, by rw [hport, if_neg hne, hp], hlocal⟩
  · intro j p hp
    rw [hport] at hp
    rw [hgeneration]
    split at hp
    · rename_i hij
      cases hp
      cases hij
      rw [if_pos rfl]
      rfl
    · rename_i hij
      rw [if_neg hij, hr.handles j p hp]
  · intro j k p q hp hq hsame
    rw [hport] at hp hq
    -- a new port and an old one have different names
    split at hp <;> split at hq
    · exact (‹i = j›).symm.trans ‹i = k›
    · cases hp
      exact absurd hsame.symm (hr.not_named hname hq)
    · cases hq
      exact absurd hsame (hr.not_named hname hp)
    · exact hr.names j k p q hp hq hsame

theorem Records.clear (hr : t.Records bridgeName) {i : PortIndex} (hlocal : i ≠ localPort) :
    (t.clear i).Records bridgeName := by
  have hport : ∀ {j p}, (t.clear i).port? j = some p → t.port? j = some p := by
    intro j p hp
    rw [port?_clear] at hp
    split at hp
    · cases hp
    · exact hp
  refine ⟨?_, fun j p hp => hr.handles j p (hport hp),
    fun j k p q hp hq => hr.names j k p q (hport hp) (hport hq)⟩
  obtain ⟨p, hp, hfixed⟩ := hr.localRecord
  exact ⟨p, by rw [port?_clear, if_neg hlocal, hp], hfixed⟩

theorem Records.change (hr : t.Records bridgeName) (h : Change bridgeName t u) :
    u.Records bridgeName := by
  cases h with
  | kept fixed generation later => exact hr.kept fixed generation
  | added endpoint ingress hi hname hu =>
    rw [hu]
    exact hr.added endpoint ingress hi hname
  | removed hlocal hu =>
    rw [hu]
    exact hr.clear hlocal

theorem Records.ofName (bridgeName : String) :
    ((ofName bridgeName).activate localPort).Records bridgeName := by
  have hport : ∀ {j p}, ((PortTable.ofName bridgeName).activate localPort).port? j = some p →
      localPort = j ∧ p = ⟨localPort, 1, bridgeName, .localStack, Vid.zero, {}⟩ := by
    intro j p hp
    have hp : (PortTable.ofName bridgeName).port? j = some p := hp
    rw [port?_ofName] at hp
    split at hp
    · cases hp
      exact ⟨‹_›, rfl⟩
    · cases hp
  refine ⟨⟨_, port?_ofName bridgeName localPort, rfl⟩, ?_, ?_⟩
  · intro i p hp
    obtain ⟨rfl, rfl⟩ := hport hp
    rfl
  · intro i j p q hp hq _
    exact (hport hp).1.symm.trans (hport hq).1

end PortTable

namespace Bridge

variable {b : Bridge} {guards : List Guard}

theorem Transition.config_eq {c : Bridge} (h : Transition b c) : c.config = b.config := by
  cases h with
  | aside h => exact h.config
  | reclaimed => exact b.reclaim_tables.2.2.2
  | _ => rfl

theorem config_run (b : Bridge) (events : List Event) : (b.run events).config = b.config := by
  have hpath : ∀ {b c : Bridge}, Path b c → c.config = b.config := by
    intro b c h
    induction h with
    | refl => rfl
    | tail _ h ih => exact h.config_eq.trans ih
  induction events generalizing b with
  | nil => rfl
  | cons e es ih => exact (ih (b.next e)).trans (hpath (next_path b e))

theorem Transition.change {c : Bridge} (hs : b.Sound guards) (h : Transition b c) :
    PortTable.Change b.config.name b.ports c.ports := by
  cases h with
  | aside h =>
    rw [h.ports]
    exact .refl _ _
  | reclaimed =>
    rw [reclaim_eq_of_tracks hs.tracks]
    exact .of_port?_eq (Release.port?_allOnPorts _ _) (Release.generation_allOnPorts _ _)
  | portAdded endpoint ingress hi hname =>
    exact .added endpoint ingress (hs.of_firstFree? hi).1 hname rfl
  | portRefused name endpoint ingress hi =>
    exact .portRefused (hs.of_firstFree? hi).1 name endpoint ingress
  | portDeleted hlocal hp hfree => exact .removed hlocal rfl
  | portSet f hp hfixed hpvid => exact .modify _ hfixed
  | vlanDeleted h hfree =>
    refine .mapPorts fun p => ?_
    split <;> rfl
  | vlanCreated | vlanEdited | learned | flushed | entryAdded | entryRemoved => exact .refl _ _

theorem retireDeleted_tables (b : Bridge) (p : Port) :
    (∀ i, (((b.flushDeletedPort p.index).releaseDevice p).retirePort p).ports.port? i =
      b.ports.port? i) ∧
    (((b.flushDeletedPort p.index).releaseDevice p).retirePort p).vlans.published =
      b.vlans.published ∧
    (((b.flushDeletedPort p.index).releaseDevice p).retirePort p).fdb =
      (b.flushDeletedPort p.index).fdb := by
  have haside := aside_releaseDevice (b.flushDeletedPort p.index) p (.slot p.index)
  obtain ⟨hports, hvlans, -⟩ := flushDeletedPort_ports b p.index
  obtain ⟨hslots, hpublished, hfdb, -⟩ :=
    (((b.flushDeletedPort p.index).releaseDevice p).queue (.slot p.index)).reclaim_tables
  refine ⟨?_, ?_, hfdb.trans haside.fdb⟩
  · intro i
    exact (hslots i).trans (congrArg (·.port? i) (haside.ports.trans hports))
  · exact hpublished.trans (congrArg (·.published) (haside.vlans.trans hvlans))

/-- A deletion takes the port out of its slot and out of the VLANs and flushes its entries; what
follows it does not change that. -/
theorem portDel_tables {n : Nat} {ports : PortTable} {p : Port}
    (h : b.ports.remove n = .ok (ports, p)) :
    (∀ i, (b.portDel n).1.ports.port? i = ports.port? i) ∧
      (b.portDel n).1.vlans.published = (b.vlans.detachAll p.index).1.published ∧
      (b.portDel n).1.fdb = (b.flushDeletedPort p.index).fdb := by
  unfold portDel
  rw [h]
  obtain ⟨hports, hvlans, hfdb⟩ :=
    retireDeleted_tables { b with ports, vlans := (b.vlans.detachAll p.index).1 } p
  refine ⟨hports, hvlans, hfdb.trans ?_⟩
  rw [flushDeletedPort_with]

theorem portDel_eq_ok {n : Nat} (hok : (b.portDel n).2 = .ok ()) :
    ∃ i : PortIndex, i.val = n ∧ b.ports.Holds i ∧ (b.portDel n).1.ports.port? i = none := by
  cases hremove : b.ports.remove n with
  | error e =>
    unfold portDel at hok
    rw [hremove] at hok
    cases hok
  | ok out =>
    obtain ⟨ports, p⟩ := out
    obtain ⟨hports, -⟩ := portDel_tables hremove
    obtain ⟨i, hi, -, hp, rfl⟩ := PortTable.remove_eq_ok hremove
    refine ⟨i, hi, PortTable.holds_iff.2 ⟨p, hp⟩, ?_⟩
    rw [hports, PortTable.port?_clear, if_pos rfl]

theorem Reachable.sound_records (hb : b.Reachable) :
    b.Sound ∧ b.ports.Records b.config.name := by
  refine Reachable.induction (P := fun b => b.Sound ∧ b.ports.Records b.config.name) ?_ ?_ hb
  · intro config network b h
    refine ⟨sound_of_create h, ?_⟩
    rw [create_eq_ok h]
    exact .ofName config.name
  · intro b c hb h
    refine ⟨hb.1.transition h, ?_⟩
    rw [h.config_eq]
    exact hb.2.change (h.change hb.1)

end Bridge

end VlanBridge
