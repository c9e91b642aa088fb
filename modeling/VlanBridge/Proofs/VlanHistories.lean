import VlanBridge.Proofs.VlanRecords
/-!
# Records that someone keeps

The record of a VLAN may be kept by someone who has found it, and read long after the VLAN is deleted. In
all its states the ports that send with a tag are members. Once the VLAN is deleted the record stays as the
deletion has left it, with no members; a VLAN that is made again under the same identifier has a record of
its own. A record is known by its serial number, which no two share.
-/

namespace VlanBridge

open VlanBridge.Net

namespace Vlan

variable {v : Vlan}

/-- Only members send with a tag. -/
def TagsMembers (v : Vlan) : Prop := ∀ i ∈ v.tagged, i ∈ v.members

theorem TagsMembers.attach (h : v.TagsMembers) (i : PortIndex) (tagged : Bool) :
    (v.attach i tagged).TagsMembers := by
  intro j hj
  rw [mem_members_attach]
  rw [mem_tagged_attach] at hj
  split at hj
  · exact Or.inl ‹_›
  · exact Or.inr (h j hj)

theorem TagsMembers.detach (h : v.TagsMembers) (i : PortIndex) : (v.detach i).TagsMembers := by
  intro j hj
  rw [mem_tagged_detach] at hj
  exact mem_members_detach.2 ⟨hj.1, h j hj.2⟩

theorem Edit.tagsMembers {o : Option PortIndex} {f : Vlan → Vlan} (hf : Edit o f)
    (h : v.TagsMembers) : (f v).TagsMembers := by
  cases hf with
  | attach i tagged => exact h.attach i tagged
  | detach i => exact h.detach i
  | learning enabled => exact h
  | flood c i enabled => cases c <;> exact h
  | router i enabled => exact h

theorem vid_detachMembers (v : Vlan) : v.detachMembers.vid = v.vid := by
  have hall : ∀ (is : List PortIndex) (w : Vlan), (is.foldl Vlan.detach w).vid = w.vid := by
    intro is
    induction is with
    | nil => exact fun _ => rfl
    | cons i is ih => exact fun w => ih (w.detach i)
  exact hall _ v

/-- Without its members a VLAN has no tagged ports either. -/
theorem TagsMembers.detachMembers (h : v.TagsMembers) :
    v.detachMembers.members = ∅ ∧ v.detachMembers.tagged = ∅ := by
  have hall : ∀ (is : List PortIndex) (w : Vlan), w.TagsMembers →
      (is.foldl Vlan.detach w).TagsMembers ∧
        ∀ j, j ∈ (is.foldl Vlan.detach w).members → j ∉ is ∧ j ∈ w.members := by
    intro is
    induction is with
    | nil => exact fun w hw => ⟨hw, fun j hj => ⟨List.not_mem_nil, hj⟩⟩
    | cons i is ih =>
      intro w hw
      obtain ⟨htags, hleft⟩ := ih (w.detach i) (hw.detach i)
      refine ⟨htags, fun j hj => ?_⟩
      obtain ⟨hnot, hmember⟩ := hleft j hj
      obtain ⟨hne, hmember⟩ := mem_members_detach.1 hmember
      refine ⟨fun hin => ?_, hmember⟩
      rcases List.mem_cons.1 hin with he | hin
      · exact hne he
      · exact hnot hin
  obtain ⟨htags, hleft⟩ := hall v.members.toList v h
  have hnone : ∀ j, j ∉ v.detachMembers.members := by
    intro j hj
    obtain ⟨hnot, hmember⟩ := hleft j hj
    exact hnot (PortSet.mem_toList.2 hmember)
  exact ⟨PortSet.isEmpty_iff.1 (PortSet.isEmpty_iff_forall.2 hnone),
    PortSet.isEmpty_iff.1 (PortSet.isEmpty_iff_forall.2 fun j hj => hnone j (htags j hj))⟩

end Vlan

namespace VlanDb

/-- What can be done to the VLANs. -/
inductive Action where
  | create (vid : Vid) (learning : Bool)
  | delete (vid : Vid)
  | attach (vid : Vid) (i : PortIndex) (tagged : Bool)
  | detach (vid : Vid) (i : PortIndex)
  | detachAll (i : PortIndex)
  | setLearning (vid : Vid) (enabled : Bool)
  | setFlood (vid : Vid) (c : FloodClass) (i : PortIndex) (enabled : Bool)
  | setRouter (vid : Vid) (i : PortIndex) (enabled : Bool)

/-- What a change leads to; one that fails changes nothing. -/
def orSame (db : VlanDb) : Except BridgeError VlanDb → VlanDb
  | .ok u => u
  | .error _ => db

def act (db : VlanDb) : Action → VlanDb
  | .create vid learning => db.orSame (db.create vid learning)
  | .delete vid => db.orSame ((db.delete vid).map (·.1))
  | .attach vid i tagged => db.orSame (db.attach vid i tagged)
  | .detach vid i => (db.detach vid i).1
  | .detachAll i => (db.detachAll i).1
  | .setLearning vid enabled => db.orSame (db.setLearning vid enabled)
  | .setFlood vid c i enabled => db.orSame (db.setFlood vid c i enabled)
  | .setRouter vid i enabled => db.orSame (db.setRouter vid i enabled)

def actAll (db : VlanDb) (actions : List Action) : VlanDb := actions.foldl act db

/-- Changes each VLAN that is in use. -/
def mapVlans (db : VlanDb) (f : Vlan → Vlan) : VlanDb :=
  { db with published := db.published.map fun r => { r with vlan := f r.vlan } }

variable {db u : VlanDb} {vid : Vid}

theorem mapVlans_id (db : VlanDb) : db.mapVlans id = db := by
  simp [mapVlans]

theorem mapVlans_mapVlans (db : VlanDb) (f g : Vlan → Vlan) :
    (db.mapVlans f).mapVlans g = db.mapVlans fun v => g (f v) := by
  simp only [mapVlans, List.map_map]
  rfl

theorem mapVlans_eq_self {f : Vlan → Vlan} (h : ∀ r ∈ db.published, f r.vlan = r.vlan) :
    db.mapVlans f = db := by
  have hlist : db.published.map (fun r => { r with vlan := f r.vlan }) = db.published := by
    refine (List.map_congr_left fun r hr => ?_).trans (List.map_id _)
    rw [h r hr]
    rfl
  unfold mapVlans
  rw [hlist]

theorem vlan?_mapVlans (db : VlanDb) {f : Vlan → Vlan} (hf : ∀ v, (f v).vid = v.vid) (vid : Vid) :
    (db.mapVlans f).vlan? vid = (db.vlan? vid).map f := by
  have hvid : (fun r : VlanRecord => r.vlan.vid == vid) ∘
      (fun r : VlanRecord => { r with vlan := f r.vlan }) = fun r => r.vlan.vid == vid := by
    funext r
    exact congrArg (· == vid) (hf r.vlan)
  simp only [vlan?, find?, mapVlans, List.find?_map, Option.map_map, hvid]
  rfl

theorem has_mapVlans {f : Vlan → Vlan} (hf : ∀ v, (f v).vid = v.vid) :
    (db.mapVlans f).Has vid ↔ db.Has vid := by
  simp only [has_iff, mapVlans, List.mem_map]
  constructor
  · rintro ⟨-, ⟨r, hr, rfl⟩, rfl⟩
    exact ⟨r, hr, (hf r.vlan).symm⟩
  · rintro ⟨r, hr, rfl⟩
    exact ⟨_, ⟨r, hr, rfl⟩, hf r.vlan⟩

theorem modify_eq_mapVlans (db : VlanDb) (vid : Vid) (f : Vlan → Vlan) :
    db.modify vid f = db.mapVlans fun v => if v.vid = vid then f v else v := by
  unfold modify mapVlans
  congr 2
  funext r
  by_cases h : r.vlan.vid = vid <;> simp only [h, if_true, if_false]

/-- An action changes the VLANs in use, or makes one, or deletes one. -/
inductive Step (db : VlanDb) : VlanDb → Prop where
  | edited (f : Vlan → Vlan) (hvid : ∀ v, (f v).vid = v.vid)
      (htags : ∀ v, v.TagsMembers → (f v).TagsMembers) : Step db (db.mapVlans f)
  | created {vid : Vid} {learning : Bool} {u : VlanDb} (h : db.create vid learning = .ok u) :
      Step db u
  | deleted {vid : Vid} {u : VlanDb} {gone : VlanRecord} (h : db.delete vid = .ok (u, gone)) :
      Step db u

theorem Step.refl (db : VlanDb) : Step db db := by
  have hsame : Step db (db.mapVlans id) := .edited id (fun _ => rfl) fun _ h => h
  rwa [mapVlans_id] at hsame

theorem Step.modify (db : VlanDb) (vid : Vid) {o : Option PortIndex} {f : Vlan → Vlan}
    (hf : Vlan.Edit o f) : Step db (db.modify vid f) := by
  rw [modify_eq_mapVlans]
  refine .edited _ ?_ ?_
  · intro v
    split
    · exact hf.vid v
    · rfl
  · intro v h
    split
    · exact hf.tagsMembers h
    · exact h

theorem Step.modifyExisting (db : VlanDb) (vid : Vid) {o : Option PortIndex} {f : Vlan → Vlan}
    (hf : Vlan.Edit o f) : Step db (db.orSame (db.modifyExisting vid f)) := by
  cases h : db.modifyExisting vid f with
  | error e => exact .refl db
  | ok u =>
    rw [(modifyExisting_eq_ok h).2]
    exact .modify db vid hf

theorem step_act (db : VlanDb) (a : Action) : Step db (db.act a) := by
  cases a with
  | create vid learning =>
    change Step db (db.orSame (db.create vid learning))
    cases h : db.create vid learning with
    | error e => exact .refl db
    | ok u => exact .created h
  | delete vid =>
    change Step db (db.orSame ((db.delete vid).map (·.1)))
    cases h : db.delete vid with
    | error e => exact .refl db
    | ok out => exact .deleted h
  | attach vid i tagged => exact .modifyExisting db vid (.attach i tagged)
  | detach vid i =>
    change Step db (db.detach vid i).1
    unfold VlanDb.detach
    split
    · exact .refl db
    · exact .modify db vid (.detach i)
  | detachAll i => exact .edited (·.detach i) (fun _ => rfl) fun _ h => h.detach i
  | setLearning vid enabled => exact .modifyExisting db vid (.learning enabled)
  | setFlood vid c i enabled => exact .modifyExisting db vid (.flood c i enabled)
  | setRouter vid i enabled => exact .modifyExisting db vid (.router i enabled)

/-! ### What the records keep to -/

/-- No two VLANs share an identifier and no two records a serial number, only members send with a tag, and
a withdrawn record has no members. -/
structure Tidy (db : VlanDb) : Prop where
  sound : db.Sound
  single : ∀ r ∈ db.published, ∀ s ∈ db.published, r.vlan.vid = s.vlan.vid → r = s
  tags : ∀ r ∈ db.published, r.vlan.TagsMembers
  gone : ∀ r ∈ db.withdrawn, r.vlan.members = ∅ ∧ r.vlan.tagged = ∅

theorem Sound.mapVlans (hd : db.Sound) (f : Vlan → Vlan) : (db.mapVlans f).Sound := by
  have hs : (db.mapVlans f).serials = db.serials := by
    simp only [serials, VlanDb.mapVlans, List.map_append, List.map_map]
    rfl
  refine ⟨?_, ?_⟩
  · rw [hs]
    exact hd.distinct
  · rw [hs]
    exact hd.fresh

theorem Tidy.initial (learning : Bool) : (initial learning).Tidy := by
  refine ⟨.initial learning, ?_, ?_, nofun⟩
  · intro r hr s hs _
    rw [List.mem_singleton.1 hr, List.mem_singleton.1 hs]
  · intro r hr i hi
    rw [List.mem_singleton.1 hr] at hi
    exact absurd hi (PortSet.not_mem_empty i)

theorem Tidy.step (hd : db.Tidy) (h : Step db u) : u.Tidy := by
  cases h with
  | edited f hvid htags =>
    refine ⟨hd.sound.mapVlans f, ?_, ?_, hd.gone⟩
    · intro r hr s hs hsame
      obtain ⟨r', hr', rfl⟩ := List.mem_map.1 hr
      obtain ⟨s', hs', rfl⟩ := List.mem_map.1 hs
      rw [hd.single r' hr' s' hs' (((hvid _).symm.trans hsame).trans (hvid _))]
    · intro r hr
      obtain ⟨r', hr', rfl⟩ := List.mem_map.1 hr
      exact htags _ (hd.tags r' hr')
  | created h =>
    have hsound := hd.sound.create h
    obtain ⟨hnew, rfl⟩ := create_eq_ok h
    refine ⟨hsound, ?_, ?_, hd.gone⟩
    · intro r hr s hs hsame
      rcases Ordered.mem_of_mem_insert hr with rfl | hr <;>
        rcases Ordered.mem_of_mem_insert hs with rfl | hs
      · rfl
      · exact absurd (has_iff.2 ⟨s, hs, hsame.symm⟩) hnew
      · exact absurd (has_iff.2 ⟨r, hr, hsame⟩) hnew
      · exact hd.single r hr s hs hsame
    · intro r hr
      rcases Ordered.mem_of_mem_insert hr with rfl | hr
      · exact fun i hi => absurd hi (PortSet.not_mem_empty i)
      · exact hd.tags r hr
  | deleted h =>
    have hsound := hd.sound.delete h
    obtain ⟨-, r, hr, rfl, rfl⟩ := delete_eq_ok h
    have hpublished : ∀ {s : VlanRecord} {p : VlanRecord → Bool},
        s ∈ db.published.filter p → s ∈ db.published := fun h => (List.mem_filter.1 h).1
    refine ⟨hsound, ?_, fun s hs => hd.tags s (hpublished hs), ?_⟩
    · exact fun s hs t ht => hd.single s (hpublished hs) t (hpublished ht)
    · intro s hs
      rcases List.mem_cons.1 hs with rfl | hs
      · exact (hd.tags r (mem_of_find? hr)).detachMembers
      · exact hd.gone s hs

theorem Tidy.find?_eq_some_iff (hd : db.Tidy) {r : VlanRecord} :
    db.find? vid = some r ↔ r ∈ db.published ∧ r.vlan.vid = vid := by
  constructor
  · intro h
    exact ⟨mem_of_find? h, find?_vid h⟩
  · rintro ⟨hr, hvid⟩
    obtain ⟨s, hs⟩ := Option.isSome_iff_exists.1 (has_iff.2 ⟨r, hr, hvid⟩)
    rw [hs, hd.single s (mem_of_find? hs) r hr ((find?_vid hs).trans hvid.symm)]

/-! ### Runs -/

/-- A record that is kept is in use under its identifier, or withdrawn for good. -/
theorem Step.keeps (h : Step db u) (hd : db.Tidy) {n : Nat} {v : Vlan}
    (hv : (⟨n, v⟩ : VlanRecord) ∈ db.published ++ db.withdrawn) :
    ∃ w : Vlan, w.vid = v.vid ∧ (⟨n, w⟩ : VlanRecord) ∈ u.published ++ u.withdrawn := by
  cases h with
  | edited f hvid htags =>
    rcases List.mem_append.1 hv with hv | hv
    · exact ⟨f v, hvid v, List.mem_append_left _ (List.mem_map.2 ⟨_, hv, rfl⟩)⟩
    · exact ⟨v, rfl, List.mem_append_right _ hv⟩
  | created h =>
    obtain ⟨hnew, rfl⟩ := create_eq_ok h
    rcases List.mem_append.1 hv with hv | hv
    · refine ⟨v, rfl, List.mem_append_left _ (Ordered.mem_insert_of_ne hv fun hrank => ?_)⟩
      exact hnew (has_iff.2 ⟨_, hv, Vid.ext hrank.symm⟩)
    · exact ⟨v, rfl, List.mem_append_right _ hv⟩
  | @deleted vid u gone h =>
    obtain ⟨-, r, hr, rfl, rfl⟩ := delete_eq_ok h
    rcases List.mem_append.1 hv with hv | hv
    · by_cases hvid : v.vid = vid
      · have hsame := hd.single r (mem_of_find? hr) _ hv ((find?_vid hr).trans hvid.symm)
        subst hsame
        exact ⟨v.detachMembers, v.vid_detachMembers, List.mem_append_right _ List.mem_cons_self⟩
      · exact ⟨v, rfl, List.mem_append_left _ (List.mem_filter.2 ⟨hv, bne_iff_ne.2 hvid⟩)⟩
    · exact ⟨v, rfl, List.mem_append_right _ (List.mem_cons_of_mem _ hv)⟩

theorem Step.withdrawn (h : Step db u) {r : VlanRecord} (hr : r ∈ db.withdrawn) :
    r ∈ u.withdrawn := by
  cases h with
  | edited f hvid htags => exact hr
  | created h =>
    obtain ⟨-, rfl⟩ := create_eq_ok h
    exact hr
  | deleted h =>
    obtain ⟨-, s, -, rfl, rfl⟩ := delete_eq_ok h
    exact List.mem_cons_of_mem _ hr

theorem Tidy.actAll (hd : db.Tidy) (actions : List Action) : (db.actAll actions).Tidy := by
  induction actions generalizing db with
  | nil => exact hd
  | cons a as ih => exact ih (hd.step (step_act db a))

theorem Tidy.keeps_actAll (hd : db.Tidy) {n : Nat} {v : Vlan}
    (hv : (⟨n, v⟩ : VlanRecord) ∈ db.published ++ db.withdrawn) (actions : List Action) :
    ∃ w : Vlan, w.vid = v.vid ∧
      (⟨n, w⟩ : VlanRecord) ∈ (db.actAll actions).published ++ (db.actAll actions).withdrawn := by
  induction actions generalizing db v with
  | nil => exact ⟨v, rfl, hv⟩
  | cons a as ih =>
    obtain ⟨w, hw, hkept⟩ := (step_act db a).keeps hd hv
    obtain ⟨x, hx, hlater⟩ := ih (hd.step (step_act db a)) hkept
    exact ⟨x, hx.trans hw, hlater⟩

/-- A withdrawn record does not change any more. -/
theorem Tidy.record?_of_withdrawn (hd : db.Tidy) {r : VlanRecord} (hr : r ∈ db.withdrawn)
    (actions : List Action) : (db.actAll actions).record? r.serial = some r.vlan := by
  have hstays : ∀ (as : List Action) {d : VlanDb}, r ∈ d.withdrawn → r ∈ (d.actAll as).withdrawn := by
    intro as
    induction as with
    | nil => exact fun h => h
    | cons a as ih => exact fun h => ih ((step_act _ a).withdrawn h)
  exact (hd.actAll actions).sound.record?_eq_some_iff.2 (List.mem_append_right _ (hstays actions hr))

/-- In every state of a run, only members of a VLAN send with a tag, whether its record is in use or kept
after the VLAN was deleted. A record that is found stays what it is about for all the run. Once its VLAN is
deleted it has neither members nor tagged ports, and does not change again. A VLAN that is made again under
the same identifier has no ports and a record of its own; what is done to it leaves the old one alone. -/
theorem kept_records (learning : Bool) (before : List Action) :
    let db := (initial learning).actAll before
    (∀ n v, db.record? n = some v → ∀ i ∈ v.tagged, i ∈ v.members) ∧
    ∀ vid r, db.find? vid = some r → ∀ between,
      let now := db.actAll between
      (∃ v, now.record? r.serial = some v ∧ v.vid = vid) ∧
      (∀ u gone, now.delete vid = .ok (u, gone) → ∃ v, v.members = ∅ ∧ v.tagged = ∅ ∧
        ∀ after, (u.actAll after).record? r.serial = some v) ∧
      ∀ again u, now.create vid again = .ok u → ∃ s, u.find? vid = some s ∧
        s.vlan = { vid, learning := again } ∧ s.serial ≠ r.serial ∧
        ∀ after, (u.actAll after).record? r.serial = now.record? r.serial := by
  intro db
  have hd : db.Tidy := (Tidy.initial learning).actAll before
  refine ⟨?_, ?_⟩
  · intro n v hv
    rcases List.mem_append.1 (hd.sound.record?_eq_some_iff.1 hv) with hv | hv
    · exact hd.tags _ hv
    · intro i hi
      rw [(hd.gone _ hv).2] at hi
      exact absurd hi (PortSet.not_mem_empty i)
  · intro vid r hr between now
    have hnow : now.Tidy := hd.actAll between
    obtain ⟨v, hvid, hv⟩ := hd.keeps_actAll (List.mem_append_left _ (mem_of_find? hr)) between
    rw [find?_vid hr] at hvid
    refine ⟨⟨v, hnow.sound.record?_eq_some_iff.2 hv, hvid⟩, ?_, ?_⟩
    · intro u gone hdelete
      have hu : u.Tidy := hnow.step (.deleted hdelete)
      rcases List.mem_append.1 hv with hv | hv
      · -- it is the record that is deleted
        have hfind := hnow.find?_eq_some_iff.2 ⟨hv, hvid⟩
        obtain ⟨-, s, hs, rfl, rfl⟩ := delete_eq_ok hdelete
        cases hfind.symm.trans hs
        obtain ⟨hmembers, htagged⟩ := (hnow.tags _ hv).detachMembers
        exact ⟨v.detachMembers, hmembers, htagged, hu.record?_of_withdrawn List.mem_cons_self⟩
      · obtain ⟨hmembers, htagged⟩ := hnow.gone _ hv
        exact ⟨v, hmembers, htagged, hu.record?_of_withdrawn ((Step.deleted hdelete).withdrawn hv)⟩
    · intro again u hcreate
      have hu : u.Tidy := hnow.step (.created hcreate)
      have hwithdrawn : ∀ w : VlanRecord, w ∈ now.withdrawn → w ∈ u.withdrawn :=
        fun w hw => (Step.created hcreate).withdrawn hw
      obtain ⟨hnew, rfl⟩ := create_eq_ok hcreate
      refine ⟨⟨now.created, { vid, learning := again }⟩,
        hu.find?_eq_some_iff.2 ⟨Ordered.mem_insert_self, rfl⟩, rfl, ?_, ?_⟩
      · have hlt : r.serial < now.created :=
          hnow.sound.fresh _ (List.mem_map.2 ⟨⟨r.serial, v⟩, hv, rfl⟩)
        exact Nat.ne_of_gt hlt
      · intro after
        rcases List.mem_append.1 hv with hv | hv
        · exact absurd (has_iff.2 ⟨_, hv, hvid⟩) hnew
        · rw [hu.record?_of_withdrawn (hwithdrawn _ hv) after]
          exact (hnow.record?_of_withdrawn hv []).symm

/-- VLAN 5 has a tagged member when its record is found. It is deleted and made again, and another port
joins it. -/
theorem kept_records_made_again :
    let vid : Vid := ⟨5, by decide⟩
    let before : List Action := [.create vid true, .attach vid 1 true]
    let old : VlanRecord := ⟨1, ({ vid, learning := true } : Vlan).attach 1 true⟩
    let db := (initial true).actAll before
    let again := db.actAll [.delete vid, .create vid true]
    db.find? vid = some old ∧
      (∃ s, again.find? vid = some s ∧ s.vlan = { vid, learning := true } ∧ s.serial ≠ 1) ∧
      ∃ v, v.members = ∅ ∧ v.tagged = ∅ ∧ (again.actAll [.attach vid 2 true]).record? 1 = some v := by
  intro vid before old db again
  have hfind : db.find? vid = some old := by decide +kernel
  have hdelete : db.delete vid =
      .ok (db.act (.delete vid), ⟨1, old.vlan.detachMembers⟩) := by decide +kernel
  have hcreate : (db.act (.delete vid)).create vid true = .ok again := by decide +kernel
  obtain ⟨-, hkept⟩ := kept_records true before
  obtain ⟨-, hdead, -⟩ := hkept vid old hfind []
  obtain ⟨v, hmembers, htagged, hstays⟩ := hdead _ _ hdelete
  obtain ⟨-, -, hagain⟩ := hkept vid old hfind [.delete vid]
  obtain ⟨s, hs, hempty, hserial, -⟩ := hagain true again hcreate
  exact ⟨hfind, ⟨s, hs, hempty, hserial⟩, v, hmembers, htagged,
    hstays [.create vid true, .attach vid 2 true]⟩

end VlanDb

end VlanBridge
