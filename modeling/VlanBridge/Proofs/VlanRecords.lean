import Mathlib.Data.List.Nodup
import VlanBridge.VlanDb
/-!
# VLANs and their records

Two views of the VLANs of a bridge: which VLANs exist and which ports they mention, and which record a
serial number leads to. `VlanDb.Sound` says that no two records, withdrawn ones included, share a serial
number; so a frame in flight finds the record it was classified to (`record?_of_mem`).
-/

namespace VlanBridge

open VlanBridge.Net

namespace Vlan

/-- A port is in one of the sets of a VLAN. -/
def Mentions (v : Vlan) (i : PortIndex) : Prop :=
  i ∈ v.members ∨ i ∈ v.tagged ∨ (∃ c, i ∈ v.flood c) ∨ i ∈ v.routers

/-- The changes that are made to one VLAN at a time, with the port that they are about. -/
inductive Edit : Option PortIndex → (Vlan → Vlan) → Prop where
  | attach (i : PortIndex) (tagged : Bool) : Edit (some i) (·.attach i tagged)
  | detach (i : PortIndex) : Edit (some i) (·.detach i)
  | learning (enabled : Bool) : Edit none ({ · with learning := enabled })
  | flood (c : FloodClass) (i : PortIndex) (enabled : Bool) : Edit (some i) (·.setFlood c i enabled)
  | router (i : PortIndex) (enabled : Bool) : Edit (some i) (·.setRouter i enabled)

theorem mentions_new (vid : Vid) (learning : Bool) (i : PortIndex) :
    ¬ ({ vid, learning } : Vlan).Mentions i := by
  rintro (h | h | ⟨c, h⟩ | h)
  · exact PortSet.not_mem_empty i h
  · exact PortSet.not_mem_empty i h
  · cases c <;> exact PortSet.not_mem_empty i h
  · exact PortSet.not_mem_empty i h

theorem flood_attach (v : Vlan) (i : PortIndex) (tagged : Bool) (c : FloodClass) :
    (v.attach i tagged).flood c = if i ∈ v.members then v.flood c else (v.flood c).insert i := by
  unfold attach
  by_cases h : i ∈ v.members
  · simp only [h, if_true]
    rfl
  · simp only [h, if_false]
    cases c <;> rfl

theorem routers_attach (v : Vlan) (i : PortIndex) (tagged : Bool) :
    (v.attach i tagged).routers = v.routers := by
  unfold attach
  by_cases h : i ∈ v.members <;> simp only [h, if_true, if_false]

theorem flood_detach (v : Vlan) (i : PortIndex) (c : FloodClass) :
    (v.detach i).flood c = (v.flood c).erase i := by
  cases c <;> rfl

theorem routers_detach (v : Vlan) (i : PortIndex) : (v.detach i).routers = v.routers.erase i := rfl

theorem mentions_detach {v : Vlan} {i j : PortIndex} :
    (v.detach i).Mentions j ↔ j ≠ i ∧ v.Mentions j := by
  unfold Mentions
  simp only [mem_members_detach, mem_tagged_detach, flood_detach, routers_detach, PortSet.mem_erase]
  constructor
  · rintro (h | h | ⟨c, h⟩ | h)
    · exact ⟨h.1, Or.inl h.2⟩
    · exact ⟨h.1, Or.inr (Or.inl h.2)⟩
    · exact ⟨h.1, Or.inr (Or.inr (Or.inl ⟨c, h.2⟩))⟩
    · exact ⟨h.1, Or.inr (Or.inr (Or.inr h.2))⟩
  · rintro ⟨hne, h | h | ⟨c, h⟩ | h⟩
    · exact Or.inl ⟨hne, h⟩
    · exact Or.inr (Or.inl ⟨hne, h⟩)
    · exact Or.inr (Or.inr (Or.inl ⟨c, hne, h⟩))
    · exact Or.inr (Or.inr (Or.inr ⟨hne, h⟩))

theorem mentions_attach {v : Vlan} {i j : PortIndex} {tagged : Bool}
    (h : (v.attach i tagged).Mentions j) : j = i ∨ v.Mentions j := by
  rcases h with h | h | ⟨c, h⟩ | h
  · exact (mem_members_attach.1 h).imp id Or.inl
  · rw [mem_tagged_attach] at h
    split at h
    · exact Or.inl ‹_›
    · exact Or.inr (Or.inr (Or.inl h))
  · rw [flood_attach] at h
    split at h
    · exact Or.inr (Or.inr (Or.inr (Or.inl ⟨c, h⟩)))
    · exact (PortSet.mem_insert.1 h).imp id fun h => Or.inr (Or.inr (Or.inl ⟨c, h⟩))
  · rw [routers_attach] at h
    exact Or.inr (Or.inr (Or.inr (Or.inr h)))

theorem mentions_setFlood {v : Vlan} {c : FloodClass} {i j : PortIndex} {enabled : Bool}
    (h : (v.setFlood c i enabled).Mentions j) : j = i ∨ v.Mentions j := by
  rcases h with h | h | ⟨d, h⟩ | h
  · exact Or.inr (Or.inl (by cases c <;> exact h))
  · exact Or.inr (Or.inr (Or.inl (by cases c <;> exact h)))
  · rw [setFlood, flood_modifyFlood] at h
    split at h
    · rw [PortSet.mem_set] at h
      split at h
      · exact Or.inl ‹_›
      · exact Or.inr (Or.inr (Or.inr (Or.inl ⟨d, h⟩)))
    · exact Or.inr (Or.inr (Or.inr (Or.inl ⟨d, h⟩)))
  · exact Or.inr (Or.inr (Or.inr (Or.inr (by cases c <;> exact h))))

theorem mentions_setRouter {v : Vlan} {i j : PortIndex} {enabled : Bool}
    (h : (v.setRouter i enabled).Mentions j) : j = i ∨ v.Mentions j := by
  rcases h with h | h | h | h
  · exact Or.inr (Or.inl h)
  · exact Or.inr (Or.inr (Or.inl h))
  · exact Or.inr (Or.inr (Or.inr (Or.inl h)))
  · have h : j ∈ v.routers.set i enabled := h
    rw [PortSet.mem_set] at h
    split at h
    · exact Or.inl ‹_›
    · exact Or.inr (Or.inr (Or.inr (Or.inr h)))

/-- A change of a VLAN brings in no port but the one that it is about. -/
theorem Edit.mentions {o : Option PortIndex} {f : Vlan → Vlan} (hf : Edit o f) {v : Vlan}
    {j : PortIndex} (h : (f v).Mentions j) : o = some j ∨ v.Mentions j := by
  cases hf with
  | attach i tagged => exact (mentions_attach h).imp (fun e => congrArg some e.symm) id
  | detach i => exact Or.inr (mentions_detach.1 h).2
  | learning enabled => exact Or.inr h
  | flood c i enabled => exact (mentions_setFlood h).imp (fun e => congrArg some e.symm) id
  | router i enabled => exact (mentions_setRouter h).imp (fun e => congrArg some e.symm) id

theorem Edit.vid {o : Option PortIndex} {f : Vlan → Vlan} (hf : Edit o f) (v : Vlan) :
    (f v).vid = v.vid := by
  cases hf with
  | attach i tagged => exact vid_attach v i tagged
  | detach i => exact vid_detach v i
  | learning enabled => rfl
  | flood c i enabled => exact vid_setFlood v c i enabled
  | router i enabled => rfl

end Vlan

namespace VlanDb

/-- A VLAN of the identifier exists. -/
def Has (db : VlanDb) (vid : Vid) : Prop := (db.find? vid).isSome = true

variable {db : VlanDb}

theorem has_iff {vid : Vid} : db.Has vid ↔ ∃ r ∈ db.published, r.vlan.vid = vid := by
  unfold Has find?
  simp only [List.find?_isSome, beq_iff_eq]

theorem find?_vid {vid : Vid} {r : VlanRecord} (h : db.find? vid = some r) : r.vlan.vid = vid := by
  have := List.find?_some h
  simpa using this

theorem mem_of_find? {vid : Vid} {r : VlanRecord} (h : db.find? vid = some r) :
    r ∈ db.published := List.mem_of_find?_eq_some h

theorem exists_vlan?_iff {vid : Vid} : (∃ v, db.vlan? vid = some v) ↔ db.Has vid := by
  unfold Has vlan?
  rw [← Option.isSome_iff_exists, Option.isSome_map]

theorem Has.require_eq {vid : Vid} (h : db.Has vid) :
    ∃ v, db.vlan? vid = some v ∧ db.require vid = .ok v := by
  obtain ⟨v, hv⟩ := exists_vlan?_iff.2 h
  refine ⟨v, hv, ?_⟩
  unfold require
  rw [hv]

theorem require_eq_ok {vid : Vid} {v : Vlan} (h : db.require vid = .ok v) : db.Has vid := by
  unfold require at h
  split at h
  · exact exists_vlan?_iff.1 ⟨_, ‹_›⟩
  · cases h

theorem modifyExisting_eq_ok {vid : Vid} {f : Vlan → Vlan} {u : VlanDb}
    (h : db.modifyExisting vid f = .ok u) : db.Has vid ∧ u = db.modify vid f := by
  unfold modifyExisting at h
  split at h
  · exact ⟨require_eq_ok ‹_›, (Except.ok.inj h).symm⟩
  · cases h

/-! ### Which VLANs there are and which ports they mention -/

theorem mem_modify {vid : Vid} {f : Vlan → Vlan} {r : VlanRecord}
    (h : r ∈ (db.modify vid f).published) :
    r ∈ db.published ∨ ∃ s ∈ db.published, s.vlan.vid = vid ∧ r = { s with vlan := f s.vlan } := by
  obtain ⟨s, hs, he⟩ := List.mem_map.1 h
  split at he
  · exact Or.inr ⟨s, hs, ‹_›, he.symm⟩
  · exact Or.inl (he ▸ hs)

theorem vids_modify {vid : Vid} {f : Vlan → Vlan} (hf : ∀ v, (f v).vid = v.vid) :
    (db.modify vid f).published.map (·.vlan.vid) = db.published.map (·.vlan.vid) := by
  simp only [modify, List.map_map]
  congr 1
  funext r
  by_cases h : r.vlan.vid = vid
  · simp only [Function.comp_apply, h, if_true, hf]
  · simp only [Function.comp_apply, h, if_false]

theorem has_of_vids_eq {u : VlanDb}
    (h : u.published.map (·.vlan.vid) = db.published.map (·.vlan.vid)) {vid : Vid} :
    u.Has vid ↔ db.Has vid := by
  rw [has_iff, has_iff]
  have hu : (∃ r ∈ u.published, r.vlan.vid = vid) ↔ vid ∈ u.published.map (·.vlan.vid) :=
    List.mem_map.symm
  rw [hu, h, List.mem_map]

theorem has_modify {vid other : Vid} {f : Vlan → Vlan} (hf : ∀ v, (f v).vid = v.vid) :
    (db.modify vid f).Has other ↔ db.Has other := has_of_vids_eq (vids_modify hf)

theorem has_detachAll {i : PortIndex} {vid : Vid} : (db.detachAll i).1.Has vid ↔ db.Has vid := by
  refine has_of_vids_eq ?_
  simp only [detachAll, List.map_map]
  rfl

theorem mem_detachAll {i : PortIndex} {r : VlanRecord} (h : r ∈ (db.detachAll i).1.published) :
    ∃ s ∈ db.published, r = { s with vlan := s.vlan.detach i } := by
  obtain ⟨s, hs, he⟩ := List.mem_map.1 h
  exact ⟨s, hs, he.symm⟩

theorem create_eq_ok {vid : Vid} {learning : Bool} {u : VlanDb}
    (h : db.create vid learning = .ok u) :
    ¬ db.Has vid ∧ u = { db with
      published := Ordered.insert rank ⟨db.created, { vid, learning }⟩ db.published
      created := db.created + 1 } := by
  unfold create at h
  split at h
  · cases h
  · rename_i hnone
    refine ⟨?_, (Except.ok.inj h).symm⟩
    unfold Has
    rw [hnone]
    exact Bool.false_ne_true

theorem delete_eq_ok {vid : Vid} {u : VlanDb} {gone : VlanRecord}
    (h : db.delete vid = .ok (u, gone)) :
    vid ≠ Vid.zero ∧ ∃ r, db.find? vid = some r ∧ gone = { r with vlan := r.vlan.detachMembers } ∧
      u = { db with
        published := db.published.filter (·.vlan.vid != vid)
        withdrawn := gone :: db.withdrawn } := by
  unfold delete at h
  split at h
  · cases h
  · rename_i hz
    split at h
    · cases h
    · rename_i r hr
      cases h
      exact ⟨fun e => hz (Vid.isZero_iff.2 e), r, hr, rfl, rfl⟩

theorem exists_create {vid : Vid} (h : ¬ db.Has vid) (learning : Bool) :
    ∃ u, db.create vid learning = .ok u := by
  unfold Has at h
  rw [Option.not_isSome_iff_eq_none] at h
  unfold create
  rw [h]
  exact ⟨_, rfl⟩

/-- A new VLAN is found as it was made, and the others as they were. -/
theorem vlan?_create {vid : Vid} {learning : Bool} {u : VlanDb} (h : db.create vid learning = .ok u)
    (other : Vid) : u.vlan? other = if other = vid then some { vid, learning } else db.vlan? other := by
  obtain ⟨hnew, hu⟩ := create_eq_ok h
  have hself : (⟨db.created, { vid, learning }⟩ : VlanRecord) ∈ u.published := by
    rw [hu]
    exact Ordered.mem_insert_self
  split
  · rename_i hother
    obtain ⟨v, hv⟩ := exists_vlan?_iff.2 (has_iff.2 ⟨_, hself, hother.symm⟩)
    obtain ⟨r, hr, rfl⟩ := Option.map_eq_some_iff.1 hv
    have hmem := mem_of_find? hr
    rw [hu] at hmem
    rcases Ordered.mem_of_mem_insert hmem with rfl | hold
    · exact hv
    · exact absurd (has_iff.2 ⟨r, hold, (find?_vid hr).trans hother⟩) hnew
  · rename_i hother
    rw [hu]
    refine congrArg (Option.map (·.vlan)) (Ordered.find?_insert (fun r hr => ?_) db.published)
    have hvid : vid = r.vlan.vid := Vid.ext hr
    rw [← hvid]
    exact beq_false_of_ne (Ne.symm hother)

theorem has_create {vid : Vid} {learning : Bool} {u : VlanDb} (h : db.create vid learning = .ok u)
    (other : Vid) : u.Has other ↔ other = vid ∨ db.Has other := by
  rw [← exists_vlan?_iff, ← exists_vlan?_iff, vlan?_create h]
  by_cases hother : other = vid
  · simp only [hother, if_true, Option.some.injEq, exists_eq', true_or]
  · simp only [hother, if_false, false_or]

theorem has_filter {vid other : Vid} {withdrawn : List VlanRecord} :
    ({ db with published := db.published.filter (·.vlan.vid != vid), withdrawn } : VlanDb).Has other ↔
      db.Has other ∧ other ≠ vid := by
  rw [has_iff, has_iff]
  simp only [List.mem_filter, bne_iff_ne]
  constructor
  · rintro ⟨r, ⟨hr, hne⟩, rfl⟩
    exact ⟨⟨r, hr, rfl⟩, hne⟩
  · rintro ⟨⟨r, hr, rfl⟩, hne⟩
    exact ⟨r, ⟨hr, hne⟩, rfl⟩

/-! ### Serial numbers -/

/-- The serial numbers of all records that may be referred to. -/
def serials (db : VlanDb) : List Nat := (db.published ++ db.withdrawn).map (·.serial)

/-- Each record has a serial number of its own, and the next one is free. -/
structure Sound (db : VlanDb) : Prop where
  distinct : db.serials.Nodup
  fresh : ∀ n ∈ db.serials, n < db.created

/-- A serial number leads to the record that has it, in use or withdrawn, and to no other. -/
theorem Sound.record?_eq_some_iff (hd : db.Sound) {n : Nat} {v : Vlan} :
    db.record? n = some v ↔ (⟨n, v⟩ : VlanRecord) ∈ db.published ++ db.withdrawn := by
  unfold record?
  constructor
  · intro h
    obtain ⟨r, hr, rfl⟩ := Option.map_eq_some_iff.1 h
    have hserial : r.serial = n := by simpa using List.find?_some hr
    subst hserial
    exact List.mem_of_find?_eq_some hr
  · intro hmem
    have hsome : ((db.published ++ db.withdrawn).find? (·.serial == n)).isSome := by
      rw [List.find?_isSome]
      exact ⟨_, hmem, by simp⟩
    obtain ⟨r, hr⟩ := Option.isSome_iff_exists.1 hsome
    have hserial : r.serial = n := by simpa using List.find?_some hr
    have hsame : r = ⟨n, v⟩ :=
      List.inj_on_of_nodup_map hd.distinct (List.mem_of_find?_eq_some hr) hmem hserial
    rw [hr, hsame]
    rfl

theorem Sound.record?_of_mem (hd : db.Sound) {r : VlanRecord} (hr : r ∈ db.published) :
    db.record? r.serial = some r.vlan :=
  hd.record?_eq_some_iff.2 (List.mem_append_left _ hr)

theorem serials_modify (vid : Vid) (f : Vlan → Vlan) : (db.modify vid f).serials = db.serials := by
  simp only [serials, modify, List.map_append, List.map_map]
  congr 2
  funext r
  by_cases h : r.vlan.vid = vid
  · simp only [Function.comp_apply, h, if_true]
  · simp only [Function.comp_apply, h, if_false]

theorem Sound.modify (hd : db.Sound) (vid : Vid) (f : Vlan → Vlan) : (db.modify vid f).Sound := by
  refine ⟨?_, ?_⟩
  · rw [serials_modify]
    exact hd.distinct
  · rw [serials_modify]
    exact hd.fresh

theorem Sound.detachAll (hd : db.Sound) (i : PortIndex) : (db.detachAll i).1.Sound := by
  have hs : (db.detachAll i).1.serials = db.serials := by
    simp only [serials, VlanDb.detachAll, List.map_append, List.map_map]
    rfl
  refine ⟨?_, ?_⟩
  · rw [hs]
    exact hd.distinct
  · rw [hs]
    exact hd.fresh

theorem Sound.discard (hd : db.Sound) (serial : Nat) : (db.discard serial).Sound := by
  have hsub : (db.discard serial).serials.Sublist db.serials := by
    have hfilter : (db.withdrawn.filter (·.serial != serial)).Sublist db.withdrawn :=
      List.filter_sublist
    exact ((List.Sublist.refl db.published).append hfilter).map _
  exact ⟨hd.distinct.sublist hsub, fun n hn => hd.fresh n (hsub.subset hn)⟩

theorem Sound.initial (learning : Bool) : (initial learning).Sound :=
  ⟨List.nodup_singleton _, by simp [serials, VlanDb.initial]⟩

theorem Sound.create (hd : db.Sound) {vid : Vid} {learning : Bool} {u : VlanDb}
    (h : db.create vid learning = .ok u) : u.Sound := by
  obtain ⟨hnew, rfl⟩ := create_eq_ok h
  have hrank : ∀ r ∈ db.published, rank ⟨db.created, { vid, learning }⟩ ≠ rank r := by
    intro r hr he
    exact hnew (has_iff.2 ⟨r, hr, Vid.ext he.symm⟩)
  have hperm := ((Ordered.perm_insert hrank).append_right db.withdrawn).map (·.serial)
  refine ⟨?_, ?_⟩
  · refine hperm.nodup_iff.2 (List.nodup_cons.2 ⟨?_, hd.distinct⟩)
    intro hmem
    exact Nat.lt_irrefl _ (hd.fresh _ hmem)
  · intro n hn
    rcases List.mem_cons.1 (hperm.mem_iff.1 hn) with rfl | hn
    · exact Nat.lt_succ_self _
    · exact Nat.lt_succ_of_lt (hd.fresh n hn)

theorem Sound.delete (hd : db.Sound) {vid : Vid} {u : VlanDb} {gone : VlanRecord}
    (h : db.delete vid = .ok (u, gone)) : u.Sound := by
  obtain ⟨-, r, hr, rfl, rfl⟩ := delete_eq_ok h
  -- the record moves from the published ones, which lose all of its identifier, to the withdrawn
  have hgone : [r].Sublist (db.published.filter fun s => !(s.vlan.vid != vid)) := by
    rw [List.singleton_sublist, List.mem_filter]
    exact ⟨mem_of_find? hr, by simp [find?_vid hr]⟩
  have hperm : ((db.published.filter (·.vlan.vid != vid) ++
      ((db.published.filter fun s => !(s.vlan.vid != vid)) ++ db.withdrawn)).map (·.serial)).Perm
      db.serials := by
    rw [← List.append_assoc]
    exact ((List.filter_append_perm (·.vlan.vid != vid) db.published).append_right _).map _
  have hsub : ((db.published.filter (·.vlan.vid != vid) ++ ([r] ++ db.withdrawn)).map
      (·.serial)).Sublist ((db.published.filter (·.vlan.vid != vid) ++
      ((db.published.filter fun s => !(s.vlan.vid != vid)) ++ db.withdrawn)).map (·.serial)) :=
    ((List.Sublist.refl _).append (hgone.append (List.Sublist.refl _))).map _
  have hserials : (db.published.filter (·.vlan.vid != vid) ++ ([r] ++ db.withdrawn)).map
      (·.serial) = ({ db with
        published := db.published.filter (·.vlan.vid != vid)
        withdrawn := { r with vlan := r.vlan.detachMembers } :: db.withdrawn } : VlanDb).serials := by
    simp only [serials, List.map_append, List.map_cons, List.map_nil]
    rfl
  rw [hserials] at hsub
  exact ⟨(hperm.nodup_iff.2 hd.distinct).sublist hsub,
    fun n hn => hd.fresh n (hperm.mem_iff.1 (hsub.subset hn))⟩

end VlanDb

end VlanBridge
