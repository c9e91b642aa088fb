import Mathlib.Data.List.Induction
import VlanBridge.Proofs.VlanHistories
/-!
# The last word on a port in a VLAN

Six sets of a VLAN say how it treats a port, and five operations change them: an attachment of a new
member changes five of the sets and that of a member one, the flood and router ports may be set for ports
that are no members, and a detachment clears all six.

For each set there is one thing that a call can say about a port (`membership`, `tagging`, `flooding`,
`routing`), or it says nothing. Whatever the history of a VLAN since it was made, a set holds a port just
if the last call about the two that had something to say put it there (`policy_follows_last_word`).
-/

namespace VlanBridge

open VlanBridge.Net

namespace Vlan

/-- Two states of a VLAN treat a port alike. -/
structure AgreesAt (i : PortIndex) (v w : Vlan) : Prop where
  members : i ∈ v.members ↔ i ∈ w.members
  tagged : i ∈ v.tagged ↔ i ∈ w.tagged
  flood : ∀ c, i ∈ v.flood c ↔ i ∈ w.flood c
  routers : i ∈ v.routers ↔ i ∈ w.routers

theorem flood_setFlood (v : Vlan) (c d : FloodClass) (i : PortIndex) (enabled : Bool) :
    (v.setFlood c i enabled).flood d = if d = c then (v.flood d).set i enabled else v.flood d :=
  v.flood_modifyFlood c d _

/-- A change of a VLAN for one port leaves the others as they were. -/
theorem Edit.agreesAt {o : Option PortIndex} {f : Vlan → Vlan} (hf : Edit o f) {j : PortIndex}
    (hj : o ≠ some j) (v : Vlan) : (f v).AgreesAt j v := by
  have hne : ∀ i, o = some i → j ≠ i := fun i hi hji => hj (hji ▸ hi)
  cases hf with
  | attach i tagged =>
    have hij := hne i rfl
    refine ⟨?_, ?_, fun c => ?_, by rw [routers_attach]⟩
    · rw [mem_members_attach, or_iff_right hij]
    · rw [mem_tagged_attach, if_neg hij]
    · rw [flood_attach]
      split
      · rfl
      · rw [PortSet.mem_insert, or_iff_right hij]
  | detach i =>
    have hij := hne i rfl
    refine ⟨?_, ?_, fun c => ?_, ?_⟩
    · rw [mem_members_detach, and_iff_right hij]
    · rw [mem_tagged_detach, and_iff_right hij]
    · rw [flood_detach, PortSet.mem_erase, and_iff_right hij]
    · rw [routers_detach, PortSet.mem_erase, and_iff_right hij]
  | learning enabled => exact ⟨Iff.rfl, Iff.rfl, fun c => by cases c <;> rfl, Iff.rfl⟩
  | flood c i enabled =>
    have hij := hne i rfl
    refine ⟨by cases c <;> rfl, by cases c <;> rfl, fun d => ?_, by cases c <;> rfl⟩
    rw [flood_setFlood]
    split
    · rw [PortSet.mem_set, if_neg hij]
    · rfl
  | router i enabled =>
    have hij := hne i rfl
    refine ⟨Iff.rfl, Iff.rfl, fun c => by cases c <;> rfl, ?_⟩
    exact PortSet.mem_set.trans (by rw [if_neg hij])

end Vlan

namespace VlanDb

/-- The calls that say how VLANs treat a port. -/
inductive PortCall where
  | attach (vid : Vid) (i : PortIndex) (tagged : Bool)
  | detach (vid : Vid) (i : PortIndex)
  | detachAll (i : PortIndex)
  | setFlood (vid : Vid) (c : FloodClass) (i : PortIndex) (enabled : Bool)
  | setRouter (vid : Vid) (i : PortIndex) (enabled : Bool)
  deriving DecidableEq

def call (db : VlanDb) : PortCall → Except BridgeError VlanDb
  | .attach vid i tagged => db.attach vid i tagged
  | .detach vid i => (db.detach vid i).2.map fun _ => (db.detach vid i).1
  | .detachAll i => .ok (db.detachAll i).1
  | .setFlood vid c i enabled => db.setFlood vid c i enabled
  | .setRouter vid i enabled => db.setRouter vid i enabled

/-- Makes the calls one after the other, all of which must succeed. -/
def callAll (db : VlanDb) (calls : List PortCall) : Except BridgeError VlanDb :=
  calls.foldlM call db

namespace PortCall

/-- The port that a call is about. -/
def port : PortCall → PortIndex
  | attach _ i _ => i
  | detach _ i => i
  | detachAll i => i
  | setFlood _ _ i _ => i
  | setRouter _ i _ => i

/-- The VLAN that a call is about, if not all are. -/
def vid? : PortCall → Option Vid
  | attach vid _ _ => some vid
  | detach vid _ => some vid
  | detachAll _ => none
  | setFlood vid _ _ _ => some vid
  | setRouter vid _ _ => some vid

/-- The call is about a VLAN, by itself or with all others. -/
def Reaches (a : PortCall) (vid : Vid) : Prop := ∀ other ∈ a.vid?, other = vid

instance (a : PortCall) (vid : Vid) : Decidable (a.Reaches vid) :=
  inferInstanceAs (Decidable (∀ _ ∈ _, _))

/-- The change that a call makes to each VLAN it is about. -/
def edit : PortCall → Vlan → Vlan
  | attach _ i tagged => (·.attach i tagged)
  | detach _ i => (·.detach i)
  | detachAll i => (·.detach i)
  | setFlood _ c i enabled => (·.setFlood c i enabled)
  | setRouter _ i enabled => (·.setRouter i enabled)

theorem edit_edit (a : PortCall) : Vlan.Edit (some a.port) a.edit := by
  cases a with
  | attach vid i tagged => exact .attach i tagged
  | detach vid i => exact .detach i
  | detachAll i => exact .detach i
  | setFlood vid c i enabled => exact .flood c i enabled
  | setRouter vid i enabled => exact .router i enabled

theorem learning_edit (a : PortCall) (v : Vlan) : (a.edit v).learning = v.learning := by
  cases a with
  | attach vid i tagged =>
    change (v.attach i tagged).learning = v.learning
    unfold Vlan.attach
    split <;> rfl
  | detach vid i => rfl
  | detachAll i => rfl
  | setFlood vid c i enabled => cases c <;> rfl
  | setRouter vid i enabled => rfl

/-! ### What the calls say -/

/-- What the last call said that had something to say. The last call stands first, and what a call says
may depend on those before. -/
def lastWord (word : List PortCall → PortCall → Option Bool) : List PortCall → Option Bool
  | [] => none
  | a :: before => (word before a).or (lastWord word before)

/-- Whether a call makes its port a member or ends its membership. -/
def membership (_ : List PortCall) : PortCall → Option Bool
  | attach .. => some true
  | detach .. => some false
  | detachAll _ => some false
  | setFlood .. => none
  | setRouter .. => none

/-- Whether an attached port shall send with a tag. -/
def tagging (_ : List PortCall) : PortCall → Option Bool
  | attach _ _ tagged => some tagged
  | _ => none

/-- Whether a call has frames of a class flooded to its port. An attachment has, if the port was no
member. -/
def flooding (c : FloodClass) (before : List PortCall) : PortCall → Option Bool
  | attach .. => if lastWord membership before = some true then none else some true
  | detach .. => some false
  | detachAll _ => some false
  | setFlood _ d _ enabled => if d = c then some enabled else none
  | setRouter .. => none

/-- Whether a call puts its port among the router ports or takes it out. -/
def routing (_ : List PortCall) : PortCall → Option Bool
  | attach .. => none
  | detach .. => some false
  | detachAll _ => some false
  | setFlood .. => none
  | setRouter _ _ enabled => some enabled

/-- The calls of a history that are about a VLAN and a port, the last one first. -/
def past (vid : Vid) (i : PortIndex) (calls : List PortCall) : List PortCall :=
  (calls.filter fun a => a.Reaches vid ∧ a.port = i).reverse

theorem past_concat (vid : Vid) (i : PortIndex) (calls : List PortCall) (a : PortCall) :
    past vid i (calls ++ [a]) =
      if a.Reaches vid ∧ a.port = i then a :: past vid i calls else past vid i calls := by
  unfold past
  rw [List.filter_append, List.reverse_append]
  split <;> simp [*]

end PortCall

open PortCall

end VlanDb

namespace Vlan

open VlanDb VlanDb.PortCall

/-- A VLAN treats a port as the last words in its past have it. -/
structure Heeds (v : Vlan) (i : PortIndex) (past : List PortCall) : Prop where
  members : i ∈ v.members ↔ lastWord membership past = some true
  tagged : i ∈ v.tagged ↔ i ∈ v.members ∧ lastWord tagging past = some true
  flood : ∀ c, i ∈ v.flood c ↔ lastWord (flooding c) past = some true
  routers : i ∈ v.routers ↔ lastWord routing past = some true

variable {v w : Vlan} {i : PortIndex} {past : List PortCall}

theorem heeds_new (vid : Vid) (learning : Bool) (i : PortIndex) :
    ({ vid, learning } : Vlan).Heeds i [] := by
  have hnone : ¬ i ∈ (∅ : PortSet) := PortSet.not_mem_empty i
  refine ⟨?_, ?_, fun c => ?_, ?_⟩
  · exact iff_of_false hnone nofun
  · exact iff_of_false hnone fun h => nomatch h.2
  · exact iff_of_false (by cases c <;> exact hnone) nofun
  · exact iff_of_false hnone nofun

theorem Heeds.congr (h : w.Heeds i past) (ha : v.AgreesAt i w) : v.Heeds i past :=
  ⟨ha.members.trans h.members, by rw [ha.tagged, ha.members, h.tagged],
    fun c => (ha.flood c).trans (h.flood c), ha.routers.trans h.routers⟩

/-- A detachment has the last word on everything. -/
theorem heeds_detach (v : Vlan) (i : PortIndex) (past : List PortCall) {a : PortCall}
    (hm : ∀ before, membership before a = some false)
    (hf : ∀ c before, flooding c before a = some false)
    (hr : ∀ before, routing before a = some false) : (v.detach i).Heeds i (a :: past) := by
  have hout : ∀ s : PortSet, ¬ i ∈ s.erase i := fun s h => (PortSet.mem_erase.1 h).1 rfl
  refine ⟨?_, ?_, fun c => ?_, ?_⟩
  · exact iff_of_false (hout _) (by simp [lastWord, hm])
  · exact iff_of_false (hout _) fun h => hout _ h.1
  · rw [flood_detach]
    exact iff_of_false (hout _) (by simp [lastWord, hf])
  · exact iff_of_false (hout _) (by simp [lastWord, hr])

theorem Heeds.attach (h : v.Heeds i past) (vid : Vid) (tagged : Bool) :
    (v.attach i tagged).Heeds i (.attach vid i tagged :: past) := by
  have hmember : i ∈ (v.attach i tagged).members := mem_members_attach.2 (Or.inl rfl)
  refine ⟨?_, ?_, fun c => ?_, ?_⟩
  · exact iff_of_true hmember rfl
  · rw [mem_tagged_attach, if_pos rfl, and_iff_right hmember]
    simp [lastWord, tagging]
  · rw [flood_attach]
    by_cases hin : i ∈ v.members
    · rw [if_pos hin, h.flood c]
      simp [lastWord, flooding, h.members.1 hin]
    · rw [if_neg hin]
      have hnot := mt h.members.2 hin
      simp [lastWord, flooding, hnot]
  · rw [routers_attach]
    exact h.routers

theorem Heeds.setFlood (h : v.Heeds i past) (vid : Vid) (c : FloodClass) (enabled : Bool) :
    (v.setFlood c i enabled).Heeds i (.setFlood vid c i enabled :: past) := by
  refine ⟨?_, ?_, fun d => ?_, ?_⟩
  · cases c <;> exact h.members
  · cases c <;> exact h.tagged
  · rw [flood_setFlood]
    by_cases hd : d = c
    · rw [if_pos hd, PortSet.mem_set, if_pos rfl]
      simp [lastWord, flooding, hd]
    · rw [if_neg hd, h.flood d]
      simp [lastWord, flooding, Ne.symm hd]
  · cases c <;> exact h.routers

theorem Heeds.setRouter (h : v.Heeds i past) (vid : Vid) (enabled : Bool) :
    (v.setRouter i enabled).Heeds i (.setRouter vid i enabled :: past) := by
  refine ⟨h.members, h.tagged, fun c => ?_, ?_⟩
  · have hc := h.flood c
    cases c <;> exact hc
  · refine PortSet.mem_set.trans ?_
    rw [if_pos rfl]
    simp [lastWord, routing]

/-- A call has the last word on its port. -/
theorem Heeds.edit {a : PortCall} (h : v.Heeds a.port past) :
    (a.edit v).Heeds a.port (a :: past) := by
  cases a with
  | attach vid i tagged => exact h.attach vid tagged
  | detach vid i => exact v.heeds_detach i past (fun _ => rfl) (fun _ _ => rfl) fun _ => rfl
  | detachAll i => exact v.heeds_detach i past (fun _ => rfl) (fun _ _ => rfl) fun _ => rfl
  | setFlood vid c i enabled => exact h.setFlood vid c enabled
  | setRouter vid i enabled => exact h.setRouter vid enabled

end Vlan

namespace VlanDb

open PortCall

variable {db u : VlanDb} {a : PortCall} {calls : List PortCall} {vid : Vid}

/-! ### One call after the other -/

/-- Making a call and then others. -/
theorem callAll_concat (h : db.callAll (calls ++ [a]) = .ok u) :
    ∃ t, db.callAll calls = .ok t ∧ t.call a = .ok u := by
  unfold callAll at h ⊢
  rw [List.foldlM_append] at h
  cases ht : calls.foldlM call db with
  | error e =>
    rw [ht] at h
    cases h
  | ok t =>
    rw [ht] at h
    have hcall : (t.call a >>= pure) = .ok u := h
    exact ⟨t, rfl, (bind_pure _).symm.trans hcall⟩

theorem detach_of_ok {i : PortIndex} (h : (db.detach vid i).2 = .ok ()) :
    (db.detach vid i).1 = db.modify vid (·.detach i) := by
  unfold detach at h ⊢
  split at h
  · cases h
  · rfl

/-- A call that succeeds changes the VLANs it is about. -/
theorem vlan?_call (h : db.call a = .ok u) (vid : Vid) :
    u.vlan? vid = if a.Reaches vid then (db.vlan? vid).map a.edit else db.vlan? vid := by
  have hvid := fun v => (edit_edit a).vid v
  have hone : ∀ vid', a.vid? = some vid' → u = db.modify vid' a.edit →
      u.vlan? vid = if a.Reaches vid then (db.vlan? vid).map a.edit else db.vlan? vid := by
    intro vid' ha hu
    rw [hu, vlan?_modify db vid' vid a.edit hvid]
    simp [Reaches, ha, eq_comm]
  cases a with
  | attach vid' i tagged => exact hone vid' rfl (modifyExisting_eq_ok h).2
  | setFlood vid' c i enabled => exact hone vid' rfl (modifyExisting_eq_ok h).2
  | setRouter vid' i enabled => exact hone vid' rfl (modifyExisting_eq_ok h).2
  | detach vid' i =>
    change (db.detach vid' i).2.map (fun _ => (db.detach vid' i).1) = .ok u at h
    cases hd : (db.detach vid' i).2 with
    | error e =>
      rw [hd] at h
      cases h
    | ok _ =>
      rw [hd] at h
      exact hone vid' rfl ((Except.ok.inj h).symm.trans (detach_of_ok hd))
  | detachAll i =>
    have hu : u = db.mapVlans (·.detach i) := (Except.ok.inj h).symm
    rw [hu, vlan?_mapVlans db (f := (·.detach i)) (fun _ => rfl), if_pos (by simp [Reaches, vid?])]
    rfl

/-- What the calls so far have left of a VLAN that was new before them. -/
theorem vlan?_callAll {learning : Bool} (hnew : db.vlan? vid = some { vid, learning })
    (h : db.callAll calls = .ok u) :
    ∃ v, u.vlan? vid = some v ∧ v.vid = vid ∧ v.learning = learning ∧
      ∀ i, v.Heeds i (past vid i calls) := by
  induction calls using List.reverseRecOn generalizing u with
  | nil =>
    cases h
    exact ⟨_, hnew, rfl, rfl, fun i => Vlan.heeds_new vid learning i⟩
  | append_singleton calls a ih =>
    obtain ⟨t, ht, hcall⟩ := callAll_concat h
    obtain ⟨v, hv, hvid, hlearning, hheeds⟩ := ih ht
    have hafter := vlan?_call hcall vid
    by_cases hr : a.Reaches vid
    · rw [if_pos hr, hv, Option.map_some] at hafter
      refine ⟨_, hafter, ?_, ?_, fun i => ?_⟩
      · exact ((edit_edit a).vid v).trans hvid
      · exact (learning_edit a v).trans hlearning
      · rw [past_concat]
        by_cases hi : a.port = i
        · subst hi
          rw [if_pos ⟨hr, rfl⟩]
          exact (hheeds a.port).edit
        · rw [if_neg fun h => hi h.2]
          exact (hheeds i).congr ((edit_edit a).agreesAt (fun h => hi (Option.some.inj h)) v)
    · rw [if_neg hr, hv] at hafter
      refine ⟨v, hafter, hvid, hlearning, fun i => ?_⟩
      rw [past_concat, if_neg fun h => hr h.1]
      exact hheeds i

/-- A call changes nothing in a VLAN that it is not about, and nothing for a port that it is not about. -/
theorem agreesAt_call (h : db.call a = .ok u) {v : Vlan} (hv : db.vlan? vid = some v) :
    ∃ w, u.vlan? vid = some w ∧ (¬ a.Reaches vid → w = v) ∧ ∀ i, i ≠ a.port → w.AgreesAt i v := by
  have hafter := vlan?_call h vid
  rw [hv] at hafter
  by_cases hr : a.Reaches vid
  · rw [if_pos hr] at hafter
    refine ⟨_, hafter, fun hn => absurd hr hn, fun i hi => ?_⟩
    exact (edit_edit a).agreesAt (fun h => hi (Option.some.inj h).symm) v
  · rw [if_neg hr] at hafter
    exact ⟨v, hafter, fun _ => rfl, fun _ _ => ⟨Iff.rfl, Iff.rfl, fun _ => Iff.rfl, Iff.rfl⟩⟩

/-- A VLAN was new, and calls were made, all with success. A port is a member just if the last word on
membership was an attachment, and sends with a tag if it is one and was last attached so. Frames of a class
are flooded to it as the last of three has it: an attachment that made it a member, a detachment, a setting
for the class. It is a router port as the last setting or detachment has it. One more call changes no other
VLAN and nothing for any other port. -/
theorem policy_follows_last_word {learning : Bool} (hnew : db.vlan? vid = some { vid, learning })
    (h : db.callAll calls = .ok u) :
    (∃ v, u.vlan? vid = some v ∧ v.vid = vid ∧ v.learning = learning ∧ ∀ i,
      (i ∈ v.members ↔ lastWord membership (past vid i calls) = some true) ∧
      (i ∈ v.tagged ↔ i ∈ v.members ∧ lastWord tagging (past vid i calls) = some true) ∧
      (∀ c, i ∈ v.flood c ↔ lastWord (flooding c) (past vid i calls) = some true) ∧
      (i ∈ v.routers ↔ lastWord routing (past vid i calls) = some true)) ∧
    ∀ a t, u.call a = .ok t → ∀ other v, u.vlan? other = some v →
      ∃ w, t.vlan? other = some w ∧ (¬ a.Reaches other → w = v) ∧
        ∀ i, i ≠ a.port → w.AgreesAt i v := by
  obtain ⟨v, hv, hvid, hlearning, hheeds⟩ := vlan?_callAll hnew h
  refine ⟨⟨v, hv, hvid, hlearning, fun i => ?_⟩, fun a t ht other v hv => agreesAt_call ht hv⟩
  exact ⟨(hheeds i).members, (hheeds i).tagged, (hheeds i).flood, (hheeds i).routers⟩

/-- A port that is attached again keeps its flood setting and gets its new tagging; another, no member, is
a router port. -/
theorem policy_follows_last_word_again :
    let vid : Vid := ⟨7, by decide⟩
    let calls : List PortCall :=
      [.attach vid 1 false, .setFlood vid .unicast 1 false, .setRouter vid 2 true, .attach vid 1 true]
    ∃ db u v, (initial true).create vid true = .ok db ∧ db.callAll calls = .ok u ∧
      u.vlan? vid = some v ∧ 1 ∈ v.tagged ∧ 1 ∉ v.flood .unicast ∧ 1 ∈ v.flood .multicast ∧
      2 ∉ v.members ∧ 2 ∈ v.routers := by
  intro vid calls
  obtain ⟨db, hcreate⟩ : ∃ db, (initial true).create vid true = .ok db := ⟨_, rfl⟩
  have hok : (db.callAll calls).isOk = true := by
    cases hcreate
    decide +kernel
  obtain ⟨u, hu⟩ : ∃ u, db.callAll calls = .ok u := by
    cases hu : db.callAll calls with
    | ok u => exact ⟨u, rfl⟩
    | error e => simp [hu, Except.isOk, Except.toBool] at hok
  have hnew : db.vlan? vid = some { vid, learning := true } := by
    rw [vlan?_create hcreate, if_pos rfl]
  obtain ⟨⟨v, hv, -, -, hport⟩, -⟩ := policy_follows_last_word hnew hu
  obtain ⟨hmember, htagged, hflood, -⟩ := hport 1
  obtain ⟨hmember', -, -, hrouter⟩ := hport 2
  refine ⟨db, u, v, hcreate, hu, hv, htagged.2 ⟨hmember.2 ?_, ?_⟩, mt (hflood _).1 ?_,
    (hflood _).2 ?_, mt hmember'.1 ?_, hrouter.2 ?_⟩
  all_goals decide

end VlanDb

end VlanBridge
