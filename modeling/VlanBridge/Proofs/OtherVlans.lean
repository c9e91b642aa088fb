import VlanBridge.Proofs.Entries
import VlanBridge.Proofs.KeyOrder
/-!
# The entries of other VLANs

What an operation of the forwarding table does to the entries outside one VLAN. Under a key of that VLAN
it does nothing to them; under another key it does what it would do if they were alone in the table.
Keys of one rank are of one VLAN, so an entry that is put in never takes the place of an entry of
another VLAN.
-/

namespace VlanBridge

open VlanBridge.Net

namespace Fdb

/-- The entries outside a VLAN. -/
def off (t : Fdb) (v : Vid) : List Entry := t.entries.filter (·.key.vid ≠ v)

/-- Two tables differ at most in the entries of one VLAN. -/
structure Alike (v : Vid) (t u : Fdb) : Prop where
  ageing : u.ageing = t.ageing
  off : u.off v = t.off v

variable {v : Vid} {t u : Fdb}

theorem Alike.refl (v : Vid) (t : Fdb) : t.Alike v t := ⟨rfl, rfl⟩

theorem Alike.symm (h : t.Alike v u) : u.Alike v t := ⟨h.ageing.symm, h.off.symm⟩

theorem Alike.trans {w : Fdb} (h : t.Alike v u) (k : u.Alike v w) : t.Alike v w :=
  ⟨k.ageing.trans h.ageing, k.off.trans h.off⟩

/-! ### Looking up -/

theorem find?_off {key : Key} (hk : key.vid ≠ v) :
    t.find? key = (t.off v).find? (·.key == key) := by
  unfold find? off
  rw [List.find?_filter]
  congr 1
  funext e
  by_cases he : e.key = key
  · simp [he, hk]
  · simp [he]

theorem Alike.find? (h : t.Alike v u) {key : Key} (hk : key.vid ≠ v) :
    u.find? key = t.find? key := by
  rw [find?_off hk, find?_off hk, h.off]

theorem Alike.lookup (h : t.Alike v u) {key : Key} (hk : key.vid ≠ v) (routers : PortSet) :
    u.lookup key routers = t.lookup key routers := by
  unfold Fdb.lookup
  rw [h.find? hk]

/-! ### Changes under one key -/

theorem off_insert (ht : t.Sorted) (e : Entry) :
    (t.insert e).off v =
      if e.key.vid ≠ v then Ordered.insert rank e (t.off v) else t.off v := by
  have hvid : ∀ a b : Entry, rank a = rank b → decide (a.key.vid ≠ v) = decide (b.key.vid ≠ v) := by
    intro a b hab
    rw [Key.eq_of_rank_eq hab]
  have hfilter := Ordered.filter_insert hvid (a := e) ht
  simp only [decide_eq_true_eq] at hfilter
  exact hfilter

theorem off_modify (key : Key) {f : Entry → Entry} (hf : ∀ e, (f e).key = e.key) :
    (t.modify key f).off v = (t.off v).map fun e => if e.key = key then f e else e := by
  unfold off modify
  rw [List.filter_map]
  congr 2
  funext e
  simp only [Function.comp_apply]
  by_cases he : e.key = key
  · rw [if_pos he, hf]
  · rw [if_neg he]

theorem off_modify_of_vid {key : Key} (hk : key.vid = v) {f : Entry → Entry}
    (hf : ∀ e, (f e).key = e.key) : (t.modify key f).off v = t.off v := by
  rw [off_modify key hf]
  have hsame : ∀ e ∈ t.off v, (if e.key = key then f e else e) = e := by
    intro e he
    have hv := of_decide_eq_true (List.mem_filter.1 he).2
    refine if_neg ?_
    rintro rfl
    exact hv hk
  exact (List.map_congr_left hsame).trans (List.map_id' _)

/-- Learning in a VLAN leaves the entries of the others alone. -/
theorem alike_learn (ht : t.Sorted) (src : Mac) (v : Vid) (i : PortIndex) (now : Int) :
    t.Alike v (t.learn src v i now).1 := by
  have hkey : (Key.mac v src).vid = v := rfl
  unfold learn
  split
  · exact .refl v t
  · simp only
    split
    · refine ⟨rfl, ?_⟩
      rw [off_insert ht]
      exact if_neg (not_not_intro hkey)
    · split
      · exact ⟨rfl, off_modify_of_vid hkey fun _ => rfl⟩
      · exact .refl v t

/-- Learning in another VLAN does the same in both tables. -/
theorem Alike.learn (h : t.Alike v u) (ht : t.Sorted) (hu : u.Sorted) {vid : Vid} (hv : vid ≠ v)
    (src : Mac) (i : PortIndex) (now : Int) :
    (t.learn src vid i now).1.Alike v (u.learn src vid i now).1 := by
  have hkey : (Key.mac vid src).vid ≠ v := hv
  have hfind := h.find? hkey
  have hseen : ∀ e : Entry, (seen e i (stamp now)).key = e.key := fun _ => rfl
  simp only [Fdb.learn, hfind]
  by_cases hstation : (!src.isStation) = true
  · simp only [hstation, if_true]
    exact h
  · simp only [hstation, if_false, Bool.false_eq_true]
    cases t.find? (Key.mac vid src) with
    | none =>
      refine ⟨h.ageing, ?_⟩
      rw [off_insert ht, off_insert hu, if_pos hkey, if_pos hkey, h.off]
    | some e =>
      by_cases hdynamic : e.origin = .dynamic
      · simp only [hdynamic, if_true]
        refine ⟨h.ageing, ?_⟩
        rw [off_modify _ hseen, off_modify _ hseen, h.off]
      · simp only [hdynamic, if_false]
        exact h

/-- The table after an attempt to install a static entry. -/
def afterAdding (t : Fdb) (key : Key) (ports : PortSet) (origin : Origin) (now : Int) : Fdb :=
  match t.addStatic key ports origin now with
  | .ok (u, _) => u
  | .error _ => t

/-- The table after an attempt to remove the entry of a key. -/
def afterRemoving (t : Fdb) (key : Key) : Fdb :=
  match t.remove key with
  | .ok (u, _) => u
  | .error _ => t

theorem alike_afterAdding (ht : t.Sorted) {key : Key} (hk : key.vid = v) (ports : PortSet)
    (origin : Origin) (now : Int) : t.Alike v (t.afterAdding key ports origin now) := by
  unfold afterAdding
  split
  · rename_i w replaced hadd
    obtain ⟨-, rfl⟩ := addStatic_eq_ok hadd
    refine ⟨rfl, ?_⟩
    rw [off_insert ht]
    exact if_neg (not_not_intro hk)
  · exact .refl v t

theorem Alike.afterAdding (h : t.Alike v u) (ht : t.Sorted) (hu : u.Sorted) (key : Key)
    (ports : PortSet) (origin : Origin) (now : Int) :
    (t.afterAdding key ports origin now).Alike v (u.afterAdding key ports origin now) := by
  by_cases hk : key.vid = v
  · exact ((alike_afterAdding ht hk ports origin now).symm.trans h).trans
      (alike_afterAdding hu hk ports origin now)
  · have hinsert : (t.insert ⟨key, origin, ports, stamp now⟩).Alike v
        (u.insert ⟨key, origin, ports, stamp now⟩) := by
      refine ⟨h.ageing, ?_⟩
      rw [off_insert ht, off_insert hu, h.off]
    have hfind := h.find? hk
    unfold Fdb.afterAdding addStatic
    rw [hfind]
    by_cases horigin : origin = .dynamic
    · simp only [horigin, if_true]
      exact h
    · by_cases hports : ports.isEmpty = true
      · simp only [horigin, hports, if_true, if_false]
        exact h
      · by_cases hzero : key.address = .mac Mac.zero
        · simp only [horigin, hports, hzero, if_true, if_false, Bool.false_eq_true]
          exact h
        · simp only [horigin, hports, hzero, if_false, Bool.false_eq_true]
          cases t.find? key with
          | none => exact hinsert
          | some e =>
            by_cases hdynamic : e.origin = .dynamic
            · simp only [hdynamic, if_true]
              exact hinsert
            · simp only [hdynamic, if_false]
              exact h

theorem sorted_afterAdding (ht : t.Sorted) (key : Key) (ports : PortSet) (origin : Origin)
    (now : Int) : (t.afterAdding key ports origin now).Sorted := by
  unfold afterAdding
  split
  · rename_i w replaced hadd
    obtain ⟨-, rfl⟩ := addStatic_eq_ok hadd
    exact ht.insert _
  · exact ht

theorem off_filter_key (key : Key) :
    ({ t with entries := t.entries.filter (·.key != key) } : Fdb).off v =
      (t.off v).filter (·.key != key) := by
  unfold off
  rw [List.filter_filter, List.filter_filter]
  congr 1
  funext e
  exact Bool.and_comm _ _

theorem afterRemoving_eq (t : Fdb) (key : Key) :
    t.afterRemoving key = { t with entries := t.entries.filter (·.key != key) } := by
  unfold afterRemoving
  split
  · exact remove_eq_ok ‹_›
  · rename_i hremove
    have hnone : t.find? key = none := by
      unfold remove at hremove
      split at hremove
      · assumption
      · cases hremove
    have hall : t.entries.filter (·.key != key) = t.entries := by
      refine List.filter_eq_self.2 ?_
      intro e he
      have hne := List.find?_eq_none.1 hnone e he
      simpa using hne
    rw [hall]

theorem sorted_afterRemoving (ht : t.Sorted) (key : Key) : (t.afterRemoving key).Sorted := by
  rw [afterRemoving_eq]
  exact Ordered.ascending_filter _ ht

theorem Alike.afterRemoving (h : t.Alike v u) (key : Key) :
    (t.afterRemoving key).Alike v (u.afterRemoving key) := by
  rw [afterRemoving_eq, afterRemoving_eq]
  refine ⟨h.ageing, ?_⟩
  rw [off_filter_key, off_filter_key, h.off]

/-! ### Flushing -/

theorem flushed?_congr (h : u.ageing = t.ageing) (f : FlushFilter) (port : Option PortIndex)
    (now : Nat) : u.flushed? f port now = t.flushed? f port now := by
  funext e
  unfold flushed? isHit
  rw [h]

theorem off_flushPort (f : FlushFilter) (port : Option PortIndex) (now : Int) :
    (t.flushPort f port now).1.off v = (t.off v).filterMap (t.flushed? f port (stamp now)) := by
  unfold off flushPort
  rw [List.filter_filterMap, List.filterMap_filter]
  congr 1
  funext e
  by_cases hv : e.key.vid = v
  · cases hd : t.flushed? f port (stamp now) e with
    | none => simp [hv]
    | some d => simp [hv, (shrunk_of_flushed? hd).key]
  · cases hd : t.flushed? f port (stamp now) e with
    | none => simp
    | some d => simp [hv, (shrunk_of_flushed? hd).key]

theorem Alike.flushPort (h : t.Alike v u) (f : FlushFilter) (port : Option PortIndex) (now : Int) :
    (t.flushPort f port now).1.Alike v (u.flushPort f port now).1 := by
  refine ⟨h.ageing, ?_⟩
  rw [off_flushPort, off_flushPort, h.off, flushed?_congr h.ageing]

/-- The table after an attempt to flush by a filter. -/
def afterFlush (t : Fdb) (f : FlushFilter) (now : Int) : Fdb :=
  match t.flush f now with
  | .ok (u, _) => u
  | .error _ => t

/-- A number that names no slot flushes nothing, whether or not it is reported. -/
theorem afterFlush_eq (t : Fdb) (f : FlushFilter) (now : Int) :
    t.afterFlush f now = match f.port with
      | none => (t.flushPort f none now).1
      | some n => match PortIndex.ofNat? n with
        | some i => (t.flushPort f (some i) now).1
        | none => t := by
  unfold afterFlush Fdb.flush
  cases f.port with
  | none => rfl
  | some n =>
    simp only
    cases PortIndex.ofNat? n with
    | some i => rfl
    | none =>
      simp only
      by_cases hany : t.entries.any (·.covered f t.ageing (stamp now)) = true
      · simp only [hany, if_true]
      · simp only [hany, if_false, Bool.false_eq_true]

theorem sorted_afterFlush (ht : t.Sorted) (f : FlushFilter) (now : Int) :
    (t.afterFlush f now).Sorted := by
  rw [afterFlush_eq]
  split
  · exact ht.flushPort f none now
  · split
    · exact ht.flushPort f _ now
    · exact ht

theorem Alike.afterFlush (h : t.Alike v u) (f : FlushFilter) (now : Int) :
    (t.afterFlush f now).Alike v (u.afterFlush f now) := by
  rw [afterFlush_eq, afterFlush_eq]
  split
  · exact h.flushPort f none now
  · split
    · exact h.flushPort f _ now
    · exact h

end Fdb

end VlanBridge
