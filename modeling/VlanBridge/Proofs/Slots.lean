import VlanBridge.PortTable
/-!
# Slots and their ports

What the operations of the port table keep: a port knows the slot it is in, and the active slots are
those that hold a port. The slots that are busy without holding a port wait for a release, which the
table knows nothing of; `install` and `clear` say what they do to both.
-/

namespace VlanBridge

/-- What does not change of a port while it is in its slot. -/
def Port.fixed (p : Port) : Handle × String × Endpoint := (p.handle, p.name, p.endpoint)

theorem Port.index_eq_of_fixed_eq {p q : Port} (h : p.fixed = q.fixed) : p.index = q.index :=
  Fin.ext (congrArg (·.1.index) h)

namespace PortTable

/-- A port is in the slot. -/
def Holds (t : PortTable) (i : PortIndex) : Prop := (t.port? i).isSome = true

instance (t : PortTable) (i : PortIndex) : Decidable (t.Holds i) :=
  inferInstanceAs (Decidable ((t.port? i).isSome = true))

theorem holds_iff {t : PortTable} {i : PortIndex} : t.Holds i ↔ ∃ p, t.port? i = some p :=
  Option.isSome_iff_exists

/-- How many ports have been put into a slot. -/
def generation (t : PortTable) (i : PortIndex) : Nat := getElem t.generations i.val i.isLt

/-- The slots, the ports in them and the active set fit together. -/
structure Sound (t : PortTable) : Prop where
  index : ∀ i p, t.port? i = some p → p.index = i
  active : ∀ i, i ∈ t.active ↔ t.Holds i

variable {t : PortTable}

/-! ### The port of a number and of a name -/

theorem get?_eq_some {n : Nat} {p : Port} (h : t.get? n = some p) :
    ∃ i : PortIndex, i.val = n ∧ t.port? i = some p := by
  unfold get? at h
  cases hn : PortIndex.ofNat? n with
  | none => simp [hn] at h
  | some i =>
    simp only [hn, Option.bind_some] at h
    exact ⟨i, PortIndex.val_of_ofNat? hn, h⟩

theorem require_eq_ok {n : Nat} {p : Port} (h : t.require n = .ok p) :
    ∃ i : PortIndex, i.val = n ∧ t.port? i = some p := by
  unfold require at h
  split at h
  · cases h
    exact get?_eq_some ‹_›
  · cases h

theorem resolve_eq_ok {h : Handle} {p : Port} (hr : t.resolve h = .ok p) :
    ∃ i : PortIndex, i.val = h.index ∧ t.port? i = some p := by
  unfold resolve at hr
  split at hr
  · split at hr
    · cases hr
      exact get?_eq_some ‹_›
    · cases hr
  · cases hr

theorem exists_of_findByName {name : String} {p : Port} (h : t.findByName name = some p) :
    ∃ i, t.port? i = some p ∧ p.name = name := by
  obtain ⟨i, hp⟩ := mem_list.1 (List.mem_of_find?_eq_some h)
  have hfound := List.find?_some h
  simp only [Bool.and_eq_true, beq_iff_eq] at hfound
  exact ⟨i, hp, hfound.2⟩

theorem remove_eq_ok {n : Nat} {u : PortTable} {p : Port} (h : t.remove n = .ok (u, p)) :
    ∃ i : PortIndex, i.val = n ∧ i ≠ localPort ∧ t.port? i = some p ∧ u = t.clear i := by
  unfold remove at h
  split at h
  · cases h
  · rename_i hlocal
    split at h
    · cases h
    · rename_i i hi
      have hn : i.val = n := PortIndex.val_of_ofNat? hi
      split at h
      · cases h
      · cases h
        refine ⟨i, hn, ?_, ‹_›, rfl⟩
        rintro rfl
        exact hlocal hn.symm

/-- A port that is not the local one can be taken out of its slot. -/
theorem remove_of_port? {i : PortIndex} {p : Port} (hlocal : i ≠ localPort)
    (hp : t.port? i = some p) : t.remove i.val = .ok (t.clear i, p) := by
  unfold remove
  rw [if_neg fun h => hlocal (Fin.ext h), PortIndex.ofNat?_val]
  simp only [hp]

theorem add_eq_ok {d : Device} {id : DeviceId} {ingress : IngressDefaults} {bridgeName : String}
    {u : PortTable} {p : Port} (h : t.add d id ingress bridgeName = .ok (u, p)) :
    ∃ i, t.busy.firstFree? = some i ∧ (u, p) = t.install i d.name (.device id) ingress := by
  unfold add at h
  split at h
  · cases h
  · split at h
    · cases h
    · split at h
      · cases h
      · rename_i i hi
        exact ⟨i, hi, (Except.ok.inj h).symm⟩

theorem add_of_eligible {d : Device} {bridgeName : String} {i : PortIndex}
    (hname : t.findByName d.name = none) (heligible : d.checkEligible bridgeName = .ok ())
    (hfree : t.busy.firstFree? = some i) (id : DeviceId) (ingress : IngressDefaults) :
    t.add d id ingress bridgeName = .ok (t.install i d.name (.device id) ingress) := by
  unfold add
  rw [hname, heligible, hfree]
  rfl

/-- A device that becomes a port has a name of its own, and not that of the bridge. -/
theorem new_name_of_add {d : Device} {id : DeviceId} {ingress : IngressDefaults}
    {bridgeName : String} {u : PortTable} {p : Port}
    (h : t.add d id ingress bridgeName = .ok (u, p)) :
    t.findByName d.name = none ∧ d.name ≠ bridgeName := by
  unfold add at h
  split at h
  · cases h
  · rename_i hnew
    have hnone : t.findByName d.name = none := by simpa using hnew
    refine ⟨hnone, ?_⟩
    rintro hname
    simp only [Device.checkEligible, hname, if_true, reduceCtorEq] at h

/-! ### Installing, clearing and changing ports -/

theorem holds_install {i j : PortIndex} {name : String} {endpoint : Endpoint}
    {ingress : IngressDefaults} :
    (t.install i name endpoint ingress).1.Holds j ↔ i = j ∨ t.Holds j := by
  unfold Holds
  rw [port?_install]
  by_cases h : i = j <;> simp [h]

theorem holds_clear {i j : PortIndex} : (t.clear i).Holds j ↔ i ≠ j ∧ t.Holds j := by
  unfold Holds
  rw [port?_clear]
  by_cases h : i = j <;> simp [h]

theorem holds_modify {i j : PortIndex} {f : Port → Port} :
    (t.modify i f).Holds j ↔ t.Holds j := by
  unfold Holds
  rw [port?_modify]
  by_cases h : i = j <;> simp [h]

theorem holds_mapPorts {j : PortIndex} {f : Port → Port} :
    (t.mapPorts f).Holds j ↔ t.Holds j := by
  unfold Holds
  rw [port?_mapPorts, Option.isSome_map]

theorem modify_modify (t : PortTable) (i : PortIndex) (f g : Port → Port) :
    (t.modify i f).modify i g = t.modify i fun p => g (f p) := by
  have hport : (t.modify i f).port? i = (t.port? i).map f := by
    rw [port?_modify, if_pos rfl]
  have hslots : (t.modify i f).slots.set i (((t.modify i f).port? i).map g) =
      t.slots.set i ((t.port? i).map fun p => g (f p)) := by
    rw [hport, Option.map_map]
    exact Vector.set_set ..
  exact congrArg (fun slots => { t with slots }) hslots

theorem modify_id (t : PortTable) (i : PortIndex) : t.modify i (fun p => p) = t := by
  have hslots : t.slots.set i ((t.port? i).map fun p => p) = t.slots := by
    rw [Option.map_id']
    exact Vector.set_getElem_self _
  exact congrArg (fun slots => { t with slots }) hslots

theorem generation_install (t : PortTable) (i j : PortIndex) (name : String) (endpoint : Endpoint)
    (ingress : IngressDefaults) :
    (t.install i name endpoint ingress).1.generation j =
      if i = j then t.generation i + 1 else t.generation j := by
  simp only [install, generation, Fin.getElem_fin, Vector.getElem_set, Fin.ext_iff]

theorem Sound.install_activate (ht : t.Sound) (i : PortIndex) (name : String) (endpoint : Endpoint)
    (ingress : IngressDefaults) : ((t.install i name endpoint ingress).1.activate i).Sound := by
  refine ⟨?_, ?_⟩
  · intro j p hp
    have hp : (t.install i name endpoint ingress).1.port? j = some p := hp
    rw [port?_install] at hp
    split at hp
    · rename_i hij
      cases hp
      exact hij
    · exact ht.index j p hp
  · intro j
    show j ∈ t.active.insert i ↔ (t.install i name endpoint ingress).1.Holds j
    rw [PortSet.mem_insert, holds_install, ht.active, eq_comm]

theorem Sound.clear (ht : t.Sound) (i : PortIndex) : (t.clear i).Sound := by
  refine ⟨?_, ?_⟩
  · intro j p hp
    rw [port?_clear] at hp
    split at hp
    · cases hp
    · exact ht.index j p hp
  · intro j
    show j ∈ t.active.erase i ↔ _
    rw [PortSet.mem_erase, holds_clear, ht.active, ne_comm]

/-- A port that is installed and taken out at once leaves the ports as they were. -/
theorem port?_install_clear {i : PortIndex} (hi : t.port? i = none) (name : String)
    (endpoint : Endpoint) (ingress : IngressDefaults) (j : PortIndex) :
    ((t.install i name endpoint ingress).1.clear i).port? j = t.port? j := by
  rw [port?_clear, port?_install]
  by_cases h : i = j
  · rw [if_pos h, ← h, hi]
  · rw [if_neg h, if_neg h]

theorem Sound.install_clear (ht : t.Sound) {i : PortIndex} (hi : t.port? i = none) (name : String)
    (endpoint : Endpoint) (ingress : IngressDefaults) :
    ((t.install i name endpoint ingress).1.clear i).Sound := by
  have hsame := port?_install_clear hi name endpoint ingress
  refine ⟨?_, ?_⟩
  · intro j p hp
    rw [hsame] at hp
    exact ht.index j p hp
  · intro j
    show j ∈ t.active.erase i ↔ _
    unfold Holds
    rw [hsame, PortSet.mem_erase, ht.active]
    refine ⟨fun h => h.2, fun h => ⟨?_, h⟩⟩
    rintro rfl
    rw [hi] at h
    cases h

theorem Sound.modify (ht : t.Sound) (i : PortIndex) {f : Port → Port}
    (hf : ∀ p, (f p).index = p.index) : (t.modify i f).Sound := by
  refine ⟨?_, ?_⟩
  · intro j p hp
    rw [port?_modify] at hp
    split at hp
    · obtain ⟨q, hq, rfl⟩ := Option.map_eq_some_iff.1 hp
      rw [hf, ht.index j q hq]
    · exact ht.index j p hp
  · intro j
    rw [holds_modify]
    exact ht.active j

theorem Sound.mapPorts (ht : t.Sound) {f : Port → Port} (hf : ∀ p, (f p).index = p.index) :
    (t.mapPorts f).Sound := by
  refine ⟨?_, ?_⟩
  · intro j p hp
    rw [port?_mapPorts] at hp
    obtain ⟨q, hq, rfl⟩ := Option.map_eq_some_iff.1 hp
    rw [hf, ht.index j q hq]
  · intro j
    rw [holds_mapPorts]
    exact ht.active j

theorem port?_ofName (name : String) (j : PortIndex) :
    (ofName name).port? j =
      if localPort = j then some { index := localPort, generation := 1, name, endpoint := .localStack }
      else none := by
  have hnone : ({} : PortTable).port? j = none := by
    simp [port?]
  rw [ofName, port?_install, hnone]
  rfl

theorem Sound.ofName (name : String) : ((ofName name).activate localPort).Sound := by
  have hempty : ({} : PortTable).Sound := by
    refine ⟨?_, ?_⟩
    · intro i p hp
      simp [port?] at hp
    · intro i
      simp [Holds, port?]
  exact hempty.install_activate localPort name .localStack {}

end PortTable

end VlanBridge
