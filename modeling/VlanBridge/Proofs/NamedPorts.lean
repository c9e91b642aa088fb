import VlanBridge.Proofs.PortRecords
/-!
# The port of a name

No two ports share a name, so a name leads to the port that has it, if there is one (`portIndex_cases`).
A request that names ports does what its operation does to the slots of these ports, and leaves the
other ports alone, with their standing in the VLANs and in the forwarding entries; if one of the names is no
port's, it does nothing (`ActsOnNamed`).
-/

namespace VlanBridge

open VlanBridge.Net

/-- The ports that a request names. -/
def Request.portNames : Request → List String
  | .portDel name | .portSetPvid name _ | .portSetIngress name _ => [name]
  | .vlanAttach _ name _ | .vlanDetach _ name => [name]
  | .vlanSetFlood _ name _ _ | .vlanSetRouter _ name _ => [name]
  | .fdbFlush name _ _ _ => name.toList
  | .fdbAdd _ names _ => names
  | .portAdd .. | .portList | .vlanAdd _ | .vlanDel _ | .vlanSetLearning .. | .vlanList => []
  | .fdbDel _ | .fdbDump | .counters => []

/-- The operation of a request is given the slot of a number. -/
def Operation.Names (op : Operation) (n : Nat) : Prop :=
  match op with
  | .portDel m | .portSetPvid m _ | .portSetIngress m _ => m = n
  | .vlanAttach _ m _ | .vlanDetach _ m | .vlanSetFlood _ _ m _ | .vlanSetRouter _ m _ => m = n
  | .fdbFlush filter => filter.port = some n
  | .fdbAdd _ ports _ => ∃ i ∈ ports, i.val = n
  | _ => False

/-- What a port is to a VLAN. -/
structure Standing where
  member : Bool
  tagged : Bool
  flooded : FloodClass → Bool
  router : Bool

def Vlan.standing (v : Vlan) (i : PortIndex) : Standing :=
  ⟨i ∈ v.members, i ∈ v.tagged, fun c => i ∈ v.flood c, i ∈ v.routers⟩

theorem Vlan.standing_eq {v w : Vlan} {i : PortIndex} (hmembers : i ∈ w.members ↔ i ∈ v.members)
    (htagged : i ∈ w.tagged ↔ i ∈ v.tagged) (hflood : ∀ c, i ∈ w.flood c ↔ i ∈ v.flood c)
    (hrouters : i ∈ w.routers ↔ i ∈ v.routers) : w.standing i = v.standing i := by
  simp only [standing, hmembers, htagged, hflood, hrouters]

theorem Vlan.standing_detach (v : Vlan) {i j : PortIndex} (hij : j ≠ i) :
    (v.detach i).standing j = v.standing j := by
  refine standing_eq ?_ ?_ ?_ ?_
  · simp only [mem_members_detach, ne_eq, hij, not_false_eq_true, true_and]
  · simp only [mem_tagged_detach, ne_eq, hij, not_false_eq_true, true_and]
  · intro c
    simp only [flood_detach, PortSet.mem_erase, ne_eq, hij, not_false_eq_true, true_and]
  · simp only [routers_detach, PortSet.mem_erase, ne_eq, hij, not_false_eq_true, true_and]

/-- A change of a VLAN for one port is none for the others. -/
theorem Vlan.Edit.standing {i j : PortIndex} {f : Vlan → Vlan} (hf : Vlan.Edit (some i) f)
    (hij : j ≠ i) (v : Vlan) : (f v).standing j = v.standing j := by
  cases hf with
  | attach i tagged =>
    refine standing_eq ?_ ?_ ?_ ?_
    · simp only [mem_members_attach, hij, false_or]
    · simp only [mem_tagged_attach, hij, if_false]
    · intro c
      rw [flood_attach]
      split
      · exact Iff.rfl
      · simp only [PortSet.mem_insert, hij, false_or]
    · rw [routers_attach]
  | detach i => exact standing_detach v hij
  | flood c i enabled =>
    have hset : ∀ d, j ∈ (v.setFlood c i enabled).flood d ↔ j ∈ v.flood d := by
      intro d
      rw [setFlood, flood_modifyFlood]
      split
      · simp only [PortSet.mem_set, hij, if_false]
      · exact Iff.rfl
    exact standing_eq (by cases c <;> rfl) (by cases c <;> rfl) hset (by cases c <;> rfl)
  | router i enabled =>
    have hset : j ∈ v.routers.set i enabled ↔ j ∈ v.routers := by
      simp only [PortSet.mem_set, hij, if_false]
    exact standing_eq Iff.rfl Iff.rfl (fun _ => Iff.rfl) hset

theorem VlanDb.vlan?_of_published_eq {db u : VlanDb} (h : u.published = db.published) (vid : Vid) :
    u.vlan? vid = db.vlan? vid := by
  simp only [vlan?, find?, h]

theorem VlanDb.vlan?_detachAll (db : VlanDb) (i : PortIndex) (vid : Vid) :
    (db.detachAll i).1.vlan? vid = (db.vlan? vid).map (·.detach i) := by
  simp only [vlan?, find?, detachAll, List.find?_map, Option.map_map]
  rfl

namespace Bridge

variable {b : Bridge}

/-! ### What is left alone -/

/-- A port, its standing in the VLANs and the entries that send to it are as before, but for the entry
under the key that an entry has been put under. -/
structure Spares (b c : Bridge) (j : PortIndex) (added : Option Key) : Prop where
  port : c.ports.port? j = b.ports.port? j
  vlans : ∀ vid, (c.vlans.vlan? vid).map (·.standing j) = (b.vlans.vlan? vid).map (·.standing j)
  entries : ∀ key, added ≠ some key → (c.fdb.SendsTo key j ↔ b.fdb.SendsTo key j)

variable {added : Option Key}

theorem Spares.refl (b : Bridge) (j : PortIndex) (added : Option Key) : b.Spares b j added :=
  ⟨rfl, fun _ => rfl, fun _ _ => Iff.rfl⟩

theorem Spares.reclaim {c : Bridge} {j : PortIndex} (h : b.Spares c j added) :
    b.Spares c.reclaim.1 j added := by
  obtain ⟨hports, hvlans, hfdb, -⟩ := c.reclaim_tables
  refine ⟨(hports j).trans h.port, ?_, ?_⟩
  · intro vid
    rw [VlanDb.vlan?_of_published_eq hvlans, h.vlans]
  · intro key hkey
    rw [hfdb, h.entries key hkey]

theorem spares_edit {i j : PortIndex} {f : Vlan → Vlan} (hf : Vlan.Edit (some i) f) (hij : j ≠ i)
    (vid : Vid) : b.Spares { b with vlans := b.vlans.modify vid f } j added := by
  refine ⟨rfl, fun other => ?_, fun _ _ => Iff.rfl⟩
  rw [VlanDb.vlan?_modify _ _ _ _ hf.vid]
  split
  · rw [Option.map_map]
    congr 1
    funext v
    exact hf.standing hij v
  · rfl

theorem Sound.ne_of_require (hs : b.Sound) {n : Nat} {p : Port} (hp : b.ports.require n = .ok p)
    {j : PortIndex} (hj : ¬ n = j.val) : j ≠ p.index := by
  obtain ⟨i, hi, hpi⟩ := PortTable.require_eq_ok hp
  rw [hs.ports.index i p hpi]
  rintro rfl
  exact hj hi.symm

theorem Sound.spares_withPort (hs : b.Sound) (vid : Vid) (n : Nat) {f : PortIndex → Vlan → Vlan}
    (hf : ∀ i, Vlan.Edit (some i) (f i)) {j : PortIndex} (hj : ¬ n = j.val) :
    b.Spares (b.withPort n fun i => b.vlans.modifyExisting vid (f i)).1 j added := by
  unfold withPort
  split
  · exact .refl b j added
  · rename_i p hp
    unfold withVlans
    split
    · rename_i vlans hmodify
      obtain ⟨-, rfl⟩ := VlanDb.modifyExisting_eq_ok hmodify
      exact spares_edit (hf p.index) (hs.ne_of_require hp hj) vid
    · exact .refl b j added

theorem sendsTo_flushDeletedPort {i j : PortIndex} (hij : j ≠ i) {key : Key} :
    (b.flushDeletedPort i).fdb.SendsTo key j ↔ b.fdb.SendsTo key j := by
  unfold flushDeletedPort
  split
  · exact Fdb.sendsTo_flushPort hij
  · -- the external entries are flushed, then those of the user
    exact (Fdb.sendsTo_flushPort hij).trans (Fdb.sendsTo_flushPort hij)

theorem Sound.spares_portDel (hs : b.Sound) (n : Nat) {j : PortIndex} (hj : ¬ n = j.val) :
    b.Spares (b.portDel n).1 j added := by
  cases hremove : b.ports.remove n with
  | error e =>
    unfold portDel
    rw [hremove]
    exact .refl b j added
  | ok out =>
    obtain ⟨ports, p⟩ := out
    obtain ⟨hports, hvlans, hfdb⟩ := portDel_tables hremove
    obtain ⟨i, rfl, -, hp, rfl⟩ := PortTable.remove_eq_ok hremove
    have hij : j ≠ i := by
      rintro rfl
      exact hj rfl
    have hindex := hs.ports.index i p hp
    refine ⟨?_, ?_, ?_⟩
    · rw [hports, PortTable.port?_clear, if_neg hij.symm]
    · intro vid
      rw [VlanDb.vlan?_of_published_eq hvlans, VlanDb.vlan?_detachAll, Option.map_map, hindex]
      congr 1
      funext v
      exact v.standing_detach hij
    · intro key _
      rw [hfdb, hindex]
      exact sendsTo_flushDeletedPort hij

theorem Sound.spares_portSet (hs : b.Sound) {n : Nat} {p : Port} (hp : b.ports.require n = .ok p)
    (f : Port → Port) {j : PortIndex} (hj : ¬ n = j.val) :
    b.Spares { b with ports := b.ports.modify p.index f } j added := by
  have hne := (hs.ne_of_require hp hj).symm
  refine ⟨?_, fun _ => rfl, fun _ _ => Iff.rfl⟩
  show (b.ports.modify p.index f).port? j = b.ports.port? j
  rw [PortTable.port?_modify, if_neg hne]

theorem spares_fdbFlush {f : FlushFilter} {n : Nat} (hport : f.port = some n) {j : PortIndex}
    (hj : ¬ n = j.val) : b.Spares (b.fdbFlush f).1 j added := by
  unfold fdbFlush
  split
  · exact .refl b j added
  · rename_i s gone hflush
    obtain ⟨t, ht, rfl⟩ := Learning.flush_eq_ok hflush
    exact Spares.reclaim ⟨rfl, fun _ => rfl, fun _ _ => Fdb.sendsTo_flush hport hj ht⟩

theorem spares_fdbAdd (key : Key) (ports : PortSet) (origin : Origin) (j : PortIndex) :
    b.Spares (b.fdbAdd key ports origin).1 j (some key) := by
  unfold fdbAdd
  split
  · exact .refl b j _
  · exact .refl b j _
  · split
    · exact .refl b j _
    · rename_i s gone hadd
      obtain ⟨t, replaced, ht, rfl⟩ := Learning.addStatic_eq_ok hadd
      obtain ⟨-, rfl⟩ := Fdb.addStatic_eq_ok ht
      refine Spares.reclaim ⟨rfl, fun _ => rfl, ?_⟩
      intro other hother
      exact Fdb.sendsTo_insert fun h => hother (congrArg some h)

theorem Sound.spares_perform (hs : b.Sound) {op : Operation} {n : Nat} (hn : op.Names n)
    {j : PortIndex} (hj : ¬ op.Names j.val) : b.Spares (b.perform op).1 j op.addedKey? := by
  cases op with
  | portDel m => exact hs.spares_portDel m hj
  | portSetPvid m vid =>
    show b.Spares (b.portSetPvid m vid).1 j none
    unfold portSetPvid
    split
    · exact .refl b j _
    · exact .refl b j _
    · exact hs.spares_portSet ‹_› _ hj
  | portSetIngress m ingress =>
    show b.Spares (b.portSetIngress m ingress).1 j none
    unfold portSetIngress
    split
    · exact .refl b j _
    · exact hs.spares_portSet ‹_› _ hj
  | vlanAttach vid m tagged => exact hs.spares_withPort vid m (.attach · tagged) hj
  | vlanDetach vid m =>
    show b.Spares (b.vlanDetach vid m).1 j none
    unfold vlanDetach
    split
    · exact .refl b j _
    · rename_i p hp
      cases hv : b.vlans.require vid with
      | error e =>
        simp only [VlanDb.detach, hv]
        exact .refl b j _
      | ok v =>
        simp only [VlanDb.detach, hv]
        exact spares_edit (.detach p.index) (hs.ne_of_require hp hj) vid
  | vlanSetFlood vid c m enabled => exact hs.spares_withPort vid m (.flood c · enabled) hj
  | vlanSetRouter vid m enabled => exact hs.spares_withPort vid m (.router · enabled) hj
  | fdbFlush filter =>
    -- the filter has the port that the operation is given
    exact spares_fdbFlush hn fun h => hj (hn.trans (congrArg some h))
  | fdbAdd key ports origin => exact spares_fdbAdd key ports origin j
  | _ => exact hn.elim

/-! ### Names -/

def HasPort (b : Bridge) (name : String) : Prop := ∃ i p, b.ports.port? i = some p ∧ p.name = name

theorem hasPort_config_name (hr : b.ports.Records b.config.name) : b.HasPort b.config.name := by
  obtain ⟨p, hp, hfixed⟩ := hr.localRecord
  exact ⟨localPort, p, hp, congrArg (·.2.1) hfixed⟩

theorem findByName_of_not_hasPort {name : String} (h : ¬ b.HasPort name) :
    b.ports.findByName name = none := by
  cases hfind : b.ports.findByName name with
  | none => rfl
  | some p =>
    obtain ⟨i, hp⟩ := PortTable.exists_of_findByName hfind
    exact absurd ⟨i, p, hp⟩ h

/-- A name leads to the port that has it, or to the failure that none has. -/
theorem portIndex_cases (hr : b.ports.Records b.config.name) (name : String) :
    (∃ i p, b.ports.port? i = some p ∧ p.name = name ∧ b.portIndex name = .ok i) ∨
      ¬ b.HasPort name ∧ b.portIndex name = .error (.unknownPortName name) := by
  unfold portIndex
  split
  · rename_i hname
    obtain ⟨p, hp, -⟩ := hr.localRecord
    exact Or.inl ⟨localPort, p, hp, ((hr.name_eq_iff hp).2 rfl).trans hname.symm, rfl⟩
  · rename_i hname
    cases hfind : b.ports.findByName name with
    | none =>
      refine Or.inr ⟨?_, rfl⟩
      rintro ⟨i, p, hp, hpn⟩
      exact hr.not_named ⟨hfind, hname⟩ hp hpn
    | some p =>
      obtain ⟨i, hp, hpn⟩ := PortTable.exists_of_findByName hfind
      refine Or.inl ⟨i, p, hp, hpn, ?_⟩
      simp only [hr.index hp]

theorem portIndex_eq_ok_iff (hr : b.ports.Records b.config.name) {name : String} {i : PortIndex} :
    b.portIndex name = .ok i ↔ ∃ p, b.ports.port? i = some p ∧ p.name = name := by
  rcases portIndex_cases hr name with ⟨j, q, hq, hname, hok⟩ | ⟨hnone, herror⟩
  · rw [hok]
    constructor
    · intro h
      cases h
      exact ⟨q, hq, hname⟩
    · rintro ⟨p, hp, hpn⟩
      rw [hr.names j i q p hq hp (hname.trans hpn.symm)]
  · rw [herror]
    constructor
    · intro h
      cases h
    · rintro ⟨p, hp, hpn⟩
      exact absurd ⟨i, p, hp, hpn⟩ hnone

/-- The slots of some ports are found unless one of the names is no port's. -/
theorem portIndices_cases (hr : b.ports.Records b.config.name) (names : List String) :
    (∃ is, b.portIndices names = .ok is ∧ (∀ name ∈ names, b.HasPort name) ∧
        ∀ i, i ∈ is ↔ ∃ name ∈ names, b.portIndex name = .ok i) ∨
      ∃ name ∈ names, ¬ b.HasPort name ∧
        b.portIndices names = .error (.unknownPortName name) := by
  induction names with
  | nil => exact Or.inl ⟨[], rfl, by simp, by simp⟩
  | cons name names ih =>
    unfold portIndices
    rcases portIndex_cases hr name with ⟨i, p, hp, hname, hok⟩ | ⟨hmissing, herror⟩
    · rw [hok]
      rcases ih with ⟨is, his, hall, hmem⟩ | ⟨other, hother, hmissing, herror⟩
      · rw [his]
        refine Or.inl ⟨i :: is, rfl, ?_, ?_⟩
        · intro other hother
          rcases List.mem_cons.1 hother with rfl | hother
          · exact ⟨i, p, hp, hname⟩
          · exact hall other hother
        · intro j
          simp only [List.mem_cons, hmem, exists_eq_or_imp, hok, Except.ok.injEq, @eq_comm _ i j]
      · rw [herror]
        exact Or.inr ⟨other, List.mem_cons_of_mem _ hother, hmissing, rfl⟩
    · rw [herror]
      exact Or.inr ⟨name, List.mem_cons_self, hmissing, rfl⟩

/-! ### Requests -/

/-- A request acts on the ports that it names and no other. -/
structure ActsOnNamed (b : Bridge) (r : Request) : Prop where
  performed : (∀ name ∈ r.portNames, b.HasPort name) →
    ∃ op, b.operation? r = some op ∧ b.handle r = answer (b.perform op) (·.response) ∧
      ∀ n, op.Names n ↔ ∃ i p, b.ports.port? i = some p ∧ p.name ∈ r.portNames ∧ i.val = n
  refused : (∃ name ∈ r.portNames, ¬ b.HasPort name) →
    ∃ name ∈ r.portNames, ¬ b.HasPort name ∧ b.handle r = (b, .error (.unknownPortName name))
  spared : ∀ i p, b.ports.port? i = some p → p.name ∉ r.portNames →
    b.Spares (b.handle r).1 i r.addedKey?

theorem exists_named (hr : b.ports.Records b.config.name) {name : String} (h : b.HasPort name)
    (op : Nat → Operation) (hop : ∀ m n, (op m).Names n ↔ m = n) :
    ∃ o, b.named name op = some o ∧
      ∀ n, o.Names n ↔ ∃ i p, b.ports.port? i = some p ∧ p.name ∈ [name] ∧ i.val = n := by
  obtain ⟨i, p, hp, hname⟩ := h
  have hok := (portIndex_eq_ok_iff hr).2 ⟨p, hp, hname⟩
  refine ⟨op i.val, by simp only [named, hok], ?_⟩
  intro n
  rw [hop]
  constructor
  · rintro rfl
    exact ⟨i, p, hp, List.mem_singleton.2 hname, rfl⟩
  · rintro ⟨j, q, hq, hmem, rfl⟩
    rw [hr.names i j p q hp hq (hname.trans (List.mem_singleton.1 hmem).symm)]

theorem exists_operation (hr : b.ports.Records b.config.name) {r : Request}
    (hnames : r.portNames ≠ []) (hall : ∀ name ∈ r.portNames, b.HasPort name) :
    ∃ op, b.operation? r = some op ∧
      ∀ n, op.Names n ↔ ∃ i p, b.ports.port? i = some p ∧ p.name ∈ r.portNames ∧ i.val = n := by
  have hone : ∀ {name}, r.portNames = [name] → b.HasPort name := by
    intro name h
    refine hall name ?_
    rw [h]
    exact List.mem_cons_self
  cases r with
  | portDel name => exact exists_named hr (hone rfl) .portDel fun _ _ => Iff.rfl
  | portSetPvid name vid => exact exists_named hr (hone rfl) (.portSetPvid · vid) fun _ _ => Iff.rfl
  | portSetIngress name ingress =>
    exact exists_named hr (hone rfl) (.portSetIngress · ingress) fun _ _ => Iff.rfl
  | vlanAttach vid name tagged =>
    exact exists_named hr (hone rfl) (.vlanAttach vid · tagged) fun _ _ => Iff.rfl
  | vlanDetach vid name => exact exists_named hr (hone rfl) (.vlanDetach vid ·) fun _ _ => Iff.rfl
  | vlanSetFlood vid name c enabled =>
    exact exists_named hr (hone rfl) (.vlanSetFlood vid c · enabled) fun _ _ => Iff.rfl
  | vlanSetRouter vid name enabled =>
    exact exists_named hr (hone rfl) (.vlanSetRouter vid · enabled) fun _ _ => Iff.rfl
  | fdbFlush name vid origin agedOnly =>
    cases name with
    | none => exact absurd rfl hnames
    | some name =>
      exact exists_named hr (hone rfl) (fun n => .fdbFlush { port := some n, vid, origin, agedOnly })
        fun _ _ => Option.some_inj
  | fdbAdd key names origin =>
    rcases portIndices_cases hr names with ⟨is, his, -, hmem⟩ | ⟨name, hname, hmissing, -⟩
    · refine ⟨.fdbAdd key (PortSet.ofList is) origin, by simp only [operation?, his], ?_⟩
      intro n
      show (∃ i ∈ PortSet.ofList is, i.val = n) ↔ _
      simp only [PortSet.mem_ofList, hmem, portIndex_eq_ok_iff hr]
      constructor
      · rintro ⟨i, ⟨name, hname, p, hp, rfl⟩, rfl⟩
        exact ⟨i, p, hp, hname, rfl⟩
      · rintro ⟨i, p, hp, hname, rfl⟩
        exact ⟨i, ⟨p.name, hname, p, hp, rfl⟩, rfl⟩
    · exact absurd (hall name hname) hmissing
  | portAdd | portList | vlanAdd | vlanDel | vlanSetLearning | vlanList | fdbDel | fdbDump
    | counters => exact absurd rfl hnames

/-- If one of the names is no port's, the request fails for the first such name. -/
theorem handle_missing (hr : b.ports.Records b.config.name) {r : Request}
    (h : ∃ name ∈ r.portNames, ¬ b.HasPort name) :
    ∃ name ∈ r.portNames, ¬ b.HasPort name ∧ b.handle r = (b, .error (.unknownPortName name)) := by
  obtain ⟨name, hname, hmissing⟩ := h
  have herror : b.portIndex name = .error (.unknownPortName name) := by
    rcases portIndex_cases hr name with ⟨i, p, hp, hpn, -⟩ | ⟨-, herror⟩
    · exact absurd ⟨i, p, hp, hpn⟩ hmissing
    · exact herror
  cases r with
  | portDel other | portSetPvid other vid | portSetIngress other ingress
    | vlanAttach vid other tagged | vlanDetach vid other | vlanSetFlood vid other c enabled
    | vlanSetRouter vid other enabled =>
    cases List.mem_singleton.1 hname
    exact ⟨name, hname, hmissing, by simp only [handle, onPort, herror]⟩
  | fdbFlush other vid origin agedOnly =>
    cases other with
    | none => cases hname
    | some other =>
      cases List.mem_singleton.1 hname
      exact ⟨name, hname, hmissing, by simp only [handle, herror]⟩
  | fdbAdd key names origin =>
    rcases portIndices_cases hr names with ⟨is, -, hall, -⟩ | ⟨first, hfirst, hnone, hfailed⟩
    · exact absurd (hall name hname) hmissing
    · exact ⟨first, hfirst, hnone, by simp only [handle, hfailed]⟩
  | portAdd | portList | vlanAdd | vlanDel | vlanSetLearning | vlanList | fdbDel | fdbDump
    | counters => cases hname

theorem actsOnNamed (hs : b.Sound) (hr : b.ports.Records b.config.name) {r : Request}
    (hnames : r.portNames ≠ []) : b.ActsOnNamed r := by
  have hperformed : ∀ {op}, b.operation? r = some op →
      b.handle r = answer (b.perform op) (·.response) := by
    intro op hop
    have hhandle := handle_eq b r
    rw [hop] at hhandle
    exact hhandle
  refine ⟨?_, handle_missing hr, ?_⟩
  · intro hall
    obtain ⟨op, hop, hslots⟩ := exists_operation hr hnames hall
    exact ⟨op, hop, hperformed hop, hslots⟩
  · -- the operation is given no slot but those of the named ports
    intro j q hq hother
    by_cases hall : ∀ name ∈ r.portNames, b.HasPort name
    · obtain ⟨op, hop, hslots⟩ := exists_operation hr hnames hall
      obtain ⟨name, hname⟩ := List.exists_mem_of_ne_nil _ hnames
      obtain ⟨i, p, hp, rfl⟩ := hall name hname
      have hn := (hslots i.val).2 ⟨i, p, hp, hname, rfl⟩
      have hj : ¬ op.Names j.val := by
        intro hj
        obtain ⟨k, p', hp', hmem, hkj⟩ := (hslots j.val).1 hj
        cases Fin.ext hkj
        rw [hq] at hp'
        cases hp'
        exact hother hmem
      rw [hperformed hop, ← (operation?_eq_some hop).2]
      exact hs.spares_perform hn hj
    · have hmissing : ∃ name ∈ r.portNames, ¬ b.HasPort name := by
        simpa only [Classical.not_forall, exists_prop] using hall
      obtain ⟨name, -, -, hhandle⟩ := handle_missing hr hmissing
      rw [hhandle]
      exact .refl b j _

/-- The local port is in slot 0 under the bridge's name. A port knows its slot, its generation is that
of the slot, and it may send to every other slot. The active slots are those that hold a port, and
busy. No two ports share a name, so the name of a port leads to its slot, and a request that names
ports acts on these ports and no other. -/
theorem ports_in_slots (hb : b.Reachable) :
    (∃ p, b.ports.port? localPort = some p ∧
      p.fixed = (localHandle, b.config.name, .localStack)) ∧
    (∀ i p, b.ports.port? i = some p →
      p.index = i ∧ p.generation = b.ports.generation i ∧ (∀ j, j ∈ p.egress ↔ j ≠ i)) ∧
    (∀ i, i ∈ b.ports.active ↔ b.ports.Holds i) ∧ (∀ i ∈ b.ports.active, i ∈ b.ports.busy) ∧
    (∀ i j p q, b.ports.port? i = some p → b.ports.port? j = some q → p.name = q.name → i = j) ∧
    (∀ i p, b.ports.port? i = some p → (p.name = b.config.name ↔ i = localPort)) ∧
    (∀ i p, b.ports.port? i = some p → b.portIndex p.name = .ok i) ∧
    ∀ r, r.portNames ≠ [] → b.ActsOnNamed r := by
  obtain ⟨hs, hr⟩ := hb.sound_records
  refine ⟨hr.localRecord, ?_, hs.ports.active, ?_, hr.names, fun i p hp => hr.name_eq_iff hp, ?_,
    fun r hnames => actsOnNamed hs hr hnames⟩
  · intro i p hp
    refine ⟨hr.index hp, hr.generation_eq hp, ?_⟩
    intro j
    rw [Port.mem_egress, hr.index hp]
  · intro i hi
    exact (hs.busy i).2 (Or.inl ((hs.ports.active i).1 hi))
  · intro i p hp
    exact (portIndex_eq_ok_iff hr).2 ⟨p, hp, rfl⟩

/-- After the first of two ports has gone and another has come, the names lead to slots 2 and 1. -/
theorem ports_in_slots_reused :
    let b := (beside ["eth0", "eth1", "eth2"]).run [.request (.portAdd "eth0" {}), .request (.portAdd "eth1" {}),
      .request (.portDel "eth0"), .request (.portAdd "eth2" {})]
    b.Reachable ∧ b.ports.list.map (fun p => (p.name, p.handle)) =
      [("ubr0", ⟨0, 1⟩), ("eth2", ⟨1, 2⟩), ("eth1", ⟨2, 1⟩)] ∧
    b.ActsOnNamed (.vlanAttach Vid.zero "eth2" true) := by
  intro b
  have hb : b.Reachable := (reachable_beside _).run _
  obtain ⟨-, -, -, -, -, -, -, hacts⟩ := ports_in_slots hb
  exact ⟨hb, by decide +kernel, hacts _ (List.cons_ne_nil _ _)⟩

end Bridge

end VlanBridge
