import VlanBridge.Proofs.Removals
import VlanBridge.Proofs.Reversals
import VlanBridge.Proofs.Stations
import VlanBridge.Proofs.WellFormedEntries
/-!
# What a flush leaves

A flush takes ports out of entries and does nothing else: an entry that meets the filter's criteria
(`Meets`) keeps the ports that the filter spares (`Spares`), every other entry keeps all its ports, and an
entry is in the table as long as it has a port (`flushed?_eq_some_iff`). The criteria look at nothing that
a flush changes. So an entry fares the same whichever of two flushes comes first, and a flush finds
nothing to do where the same flush has just been.
-/

namespace VlanBridge

open VlanBridge.Net

namespace PortSet

variable {s : PortSet} {i : PortIndex}

theorem ne_empty_of_mem (h : i ∈ s) : s ≠ ∅ := by
  rintro rfl
  exact not_mem_empty i h

theorem exists_mem_of_ne_empty (h : s ≠ ∅) : ∃ i, i ∈ s := by
  by_contra hnone
  exact h (isEmpty_iff.1 (isEmpty_iff_forall.2 (not_exists.1 hnone)))

end PortSet

namespace FlushFilter

/-- An entry is in the VLAN, is of the origin and has been idle for as long as a filter asks. -/
structure Meets (f : FlushFilter) (ageing now : Nat) (e : Entry) : Prop where
  vid : ∀ vid ∈ f.vid, e.key.vid = vid
  origin : ∀ origin ∈ f.origin, e.origin = origin
  aged : f.agedOnly = true → e.origin = .dynamic ∧ e.lastSeen + min ageing maxStamp < now

/-- The port is not the one that a filter takes out of entries; without a port it takes out all. -/
def Spares (f : FlushFilter) (i : PortIndex) : Prop := ∃ n ∈ f.port, n ≠ i.val

/-- The port of a filter, if it has one, is a slot. -/
def InRange (f : FlushFilter) : Prop := ∀ n ∈ f.port, n < maxPorts

variable {f : FlushFilter} {ageing now : Nat} {e d : Entry} {port : Option PortIndex} {i : PortIndex}

theorem meets_iff : e.covered f ageing now = true ↔ f.Meets ageing now e := by
  have hidle : min ageing maxStamp < e.idle now ↔ e.lastSeen + min ageing maxStamp < now := by
    unfold Entry.idle
    omega
  simp only [Entry.covered, Entry.isAged, Bool.and_eq_true, Bool.or_eq_true, Bool.not_eq_true',
    Option.all_eq_true, beq_iff_eq, decide_eq_true_eq, hidle]
  constructor
  · rintro ⟨⟨hvid, horigin⟩, haged⟩
    exact ⟨fun v hv => (hvid v hv).symm, fun o ho => (horigin o ho).symm,
      fun h => haged.resolve_left (by simp [h])⟩
  · rintro ⟨hvid, horigin, haged⟩
    refine ⟨⟨fun v hv => (hvid v hv).symm, fun o ho => (horigin o ho).symm⟩, ?_⟩
    by_cases h : f.agedOnly = true
    · exact Or.inr (haged h)
    · exact Or.inl (by simpa using h)

theorem spares_iff (hport : f.port = port.map (·.val)) : f.Spares i ↔ ∃ j, port = some j ∧ j ≠ i := by
  unfold Spares
  rw [hport]
  constructor
  · rintro ⟨n, hn, hne⟩
    obtain ⟨j, rfl, rfl⟩ := Option.map_eq_some_iff.1 hn
    exact ⟨j, rfl, fun he => hne (congrArg Fin.val he)⟩
  · rintro ⟨j, rfl, hne⟩
    exact ⟨j.val, rfl, fun he => hne (Fin.ext he)⟩

theorem mem_portsWithout_iff (hport : f.port = port.map (·.val)) :
    i ∈ e.portsWithout port ↔ i ∈ e.ports ∧ f.Spares i := by
  rw [spares_iff hport]
  cases port with
  | none => simp [Entry.portsWithout]
  | some j =>
    simp only [Entry.portsWithout, PortSet.mem_erase, Option.some.injEq, exists_eq_left']
    exact ⟨fun h => ⟨h.2, h.1.symm⟩, fun h => ⟨h.2.symm, h.1⟩⟩

theorem sendsTo_iff (hport : f.port = port.map (·.val)) (he : e.ports ≠ ∅) :
    e.sendsTo port = true ↔ ∃ i ∈ e.ports, ¬ f.Spares i := by
  simp only [spares_iff hport, not_exists, not_and, not_not]
  cases port with
  | none =>
    refine iff_of_true rfl ?_
    obtain ⟨i, hi⟩ := PortSet.exists_mem_of_ne_empty he
    exact ⟨i, hi, nofun⟩
  | some j =>
    simp only [Entry.sendsTo, decide_eq_true_eq, Option.some.injEq, forall_eq']
    constructor
    · intro h
      exact ⟨j, h, rfl⟩
    · rintro ⟨i, hi, rfl⟩
      exact hi

/-- What a filter leaves of an entry: the entry with the ports that are spared, if it meets the criteria. -/
structure Leaves (f : FlushFilter) (ageing now : Nat) (e d : Entry) : Prop where
  key : d.key = e.key
  origin : d.origin = e.origin
  lastSeen : d.lastSeen = e.lastSeen
  ports : ∀ i, i ∈ d.ports ↔ i ∈ e.ports ∧ (f.Meets ageing now e → f.Spares i)

theorem Leaves.meets_iff (h : f.Leaves ageing now e d) {g : FlushFilter} :
    g.Meets ageing now d ↔ g.Meets ageing now e := by
  constructor
  · rintro ⟨hvid, horigin, haged⟩
    rw [h.key] at hvid
    rw [h.origin] at horigin haged
    rw [h.lastSeen] at haged
    exact ⟨hvid, horigin, haged⟩
  · rintro ⟨hvid, horigin, haged⟩
    rw [← h.key] at hvid
    rw [← h.origin] at horigin haged
    rw [← h.lastSeen] at haged
    exact ⟨hvid, horigin, haged⟩

theorem Leaves.refl (h : f.Meets ageing now e → ∀ i ∈ e.ports, f.Spares i) :
    f.Leaves ageing now e e :=
  ⟨rfl, rfl, rfl, fun i => ⟨fun hi => ⟨hi, fun hm => h hm i hi⟩, And.left⟩⟩

end FlushFilter

theorem Entry.ext_ports {d e : Entry} (hkey : d.key = e.key) (horigin : d.origin = e.origin)
    (hseen : d.lastSeen = e.lastSeen) (hports : ∀ i, i ∈ d.ports ↔ i ∈ e.ports) : d = e := by
  cases d
  cases e
  simp only [Entry.mk.injEq]
  exact ⟨hkey, horigin, PortSet.ext hports, hseen⟩

namespace Fdb

variable {t : Fdb} {f g : FlushFilter} {port : Option PortIndex} {now : Nat} {e d : Entry}

/-! ### One entry -/

theorem isHit_iff (hport : f.port = port.map (·.val)) (he : e.ports ≠ ∅) :
    t.isHit f port now e = true ↔
      f.Meets t.ageing now e ∧ ∃ i ∈ e.ports, ¬ f.Spares i := by
  unfold isHit
  rw [Bool.and_eq_true, FlushFilter.meets_iff, FlushFilter.sendsTo_iff hport he]

/-- A flush leaves an entry what its filter leaves it, unless that is no port at all. -/
theorem flushed?_eq_some_iff (hport : f.port = port.map (·.val)) (he : e.ports ≠ ∅) :
    t.flushed? f port now e = some d ↔ f.Leaves t.ageing now e d ∧ d.ports ≠ ∅ := by
  unfold flushed?
  by_cases hhit : t.isHit f port now e = true
  · obtain ⟨hmeets, -⟩ := (isHit_iff hport he).1 hhit
    have hleaves : f.Leaves t.ageing now e { e with ports := e.portsWithout port } := by
      refine ⟨rfl, rfl, rfl, fun i => (FlushFilter.mem_portsWithout_iff hport).trans ?_⟩
      exact and_congr_right fun _ => ⟨fun h _ => h, fun h => h hmeets⟩
    have hunique : f.Leaves t.ageing now e d → { e with ports := e.portsWithout port } = d :=
      fun h => Entry.ext_ports h.key.symm h.origin.symm h.lastSeen.symm
        fun i => (hleaves.ports i).trans (h.ports i).symm
    rw [if_pos hhit]
    split
    · rename_i hempty
      refine iff_of_false nofun ?_
      rintro ⟨h, hne⟩
      rw [← hunique h] at hne
      exact hne (PortSet.isEmpty_iff.1 hempty)
    · rename_i hleft
      rw [Option.some.injEq]
      constructor
      · rintro rfl
        exact ⟨hleaves, fun hnone => hleft (PortSet.isEmpty_iff.2 hnone)⟩
      · exact fun h => hunique h.1
  · have hspared : f.Meets t.ageing now e → ∀ i ∈ e.ports, f.Spares i := by
      intro hmeets i hi
      by_contra hnot
      exact hhit ((isHit_iff hport he).2 ⟨hmeets, i, hi, hnot⟩)
    have hleaves := FlushFilter.Leaves.refl hspared
    rw [if_neg hhit, Option.some.injEq]
    constructor
    · rintro rfl
      exact ⟨hleaves, he⟩
    · rintro ⟨h, -⟩
      exact Entry.ext_ports h.key.symm h.origin.symm h.lastSeen.symm
        fun i => (hleaves.ports i).trans (h.ports i).symm

/-- An entry is removed just if its filter spares none of its ports. -/
theorem flushed?_eq_none_iff (hport : f.port = port.map (·.val)) (he : e.ports ≠ ∅) :
    t.flushed? f port now e = none ↔ f.Meets t.ageing now e ∧ ∀ i ∈ e.ports, ¬ f.Spares i := by
  have hempty : (e.portsWithout port).isEmpty = true ↔ ∀ i ∈ e.ports, ¬ f.Spares i := by
    simp only [PortSet.isEmpty_iff_forall, FlushFilter.mem_portsWithout_iff hport, not_and]
  unfold flushed?
  by_cases hhit : t.isHit f port now e = true
  · have hmeets := ((isHit_iff hport he).1 hhit).1
    rw [if_pos hhit, ← hempty, and_iff_right hmeets]
    split
    · exact iff_of_true rfl ‹_›
    · exact iff_of_false nofun ‹_›
  · rw [if_neg hhit]
    refine iff_of_false nofun ?_
    rintro ⟨hmeets, hnone⟩
    obtain ⟨i, hi⟩ := PortSet.exists_mem_of_ne_empty he
    exact hhit ((isHit_iff hport he).2 ⟨hmeets, i, hi, hnone i hi⟩)

/-- A port that the filter spares keeps its entry in the table. -/
theorem exists_flushed? (hport : f.port = port.map (·.val)) {i : PortIndex} (hi : i ∈ e.ports)
    (hspared : f.Meets t.ageing now e → f.Spares i) : ∃ d, t.flushed? f port now e = some d := by
  refine Option.ne_none_iff_exists'.1 fun hnone => ?_
  obtain ⟨hmeets, hall⟩ := (flushed?_eq_none_iff hport (PortSet.ne_empty_of_mem hi)).1 hnone
  exact hall i hi (hspared hmeets)

/-- What is left of an entry by one flush and then by another is left by the other and then by the one. -/
theorem flushed?_flushed? {q : Option PortIndex} (hf : f.port = port.map (·.val))
    (hg : g.port = q.map (·.val)) (he : e.ports ≠ ∅) {c : Entry}
    (hc : t.flushed? f port now e = some c) (hd : t.flushed? g q now c = some d) :
    ∃ c', t.flushed? g q now e = some c' ∧ t.flushed? f port now c' = some d := by
  obtain ⟨hec, hcports⟩ := (flushed?_eq_some_iff hf he).1 hc
  obtain ⟨hcd, hdports⟩ := (flushed?_eq_some_iff hg hcports).1 hd
  -- a port that is left in the end is spared by both filters
  have hboth : ∀ i, i ∈ d.ports ↔ i ∈ e.ports ∧ (f.Meets t.ageing now e → f.Spares i) ∧
      (g.Meets t.ageing now e → g.Spares i) := by
    intro i
    rw [hcd.ports, hec.ports, hec.meets_iff, and_assoc]
  obtain ⟨i, hi⟩ := PortSet.exists_mem_of_ne_empty hdports
  obtain ⟨hie, hif, hig⟩ := (hboth i).1 hi
  obtain ⟨c', hc'⟩ := exists_flushed? hg hie hig
  obtain ⟨hec', hcports'⟩ := (flushed?_eq_some_iff hg he).1 hc'
  refine ⟨c', hc', (flushed?_eq_some_iff hf hcports').2 ⟨⟨?_, ?_, ?_, ?_⟩, hdports⟩⟩
  · rw [hcd.key, hec.key, hec'.key]
  · rw [hcd.origin, hec.origin, hec'.origin]
  · rw [hcd.lastSeen, hec.lastSeen, hec'.lastSeen]
  · intro j
    rw [hboth, hec'.ports, hec'.meets_iff, and_assoc, and_comm (a := _ → f.Spares j)]

/-- A flush does not hit what it has left. -/
theorem isHit_flushed? (hport : f.port = port.map (·.val)) (he : e.ports ≠ ∅)
    (hd : t.flushed? f port now e = some d) : t.isHit f port now d = false := by
  obtain ⟨hleaves, hdports⟩ := (flushed?_eq_some_iff hport he).1 hd
  refine Bool.eq_false_iff.2 fun hhit => ?_
  obtain ⟨hmeets, i, hi, hnot⟩ := (isHit_iff hport hdports).1 hhit
  exact hnot (((hleaves.ports i).1 hi).2 (hleaves.meets_iff.1 hmeets))

/-! ### The table -/

theorem flush_eq_flushPort (hrange : f.InRange) :
    ∃ port : Option PortIndex, f.port = port.map (·.val) ∧
      ∀ (t : Fdb) (now : Int), t.flush f now = .ok (t.flushPort f port now) := by
  unfold flush
  cases hport : f.port with
  | none => exact ⟨none, rfl, fun _ _ => rfl⟩
  | some n =>
    refine ⟨some ⟨n, hrange n hport⟩, rfl, fun t now => ?_⟩
    have hslot := PortIndex.ofNat?_val ⟨n, hrange n hport⟩
    simp only at hslot ⊢
    rw [hslot]

theorem Sorted.find?_flushPort (ht : t.Sorted) (f : FlushFilter) (port : Option PortIndex) (now : Int)
    (key : Key) : (t.flushPort f port now).1.find? key =
      (t.find? key).bind (t.flushed? f port (stamp now)) := by
  ext d
  rw [(ht.flushPort f port now).find?_eq_some_iff, mem_flushPort, Option.bind_eq_some_iff]
  constructor
  · rintro ⟨⟨e, he, hd⟩, hkey⟩
    exact ⟨e, ht.find?_eq_some_iff.2 ⟨he, (shrunk_of_flushed? hd).key.symm.trans hkey⟩, hd⟩
  · rintro ⟨e, he, hd⟩
    obtain ⟨he, hkey⟩ := ht.find?_eq_some_iff.1 he
    exact ⟨⟨e, he, hd⟩, (shrunk_of_flushed? hd).key.trans hkey⟩

/-- As many entries are given back as are found no more. -/
theorem Sorted.count_flushPort (ht : t.Sorted) (f : FlushFilter) (port : Option PortIndex)
    (now : Int) : (t.flushPort f port now).2.length =
      t.entries.countP fun e => ((t.flushPort f port now).1.find? e.key).isNone := by
  rw [t.length_flushPort, ← List.countP_eq_length_filter]
  refine List.countP_congr fun e he => ?_
  rw [ht.find?_flushPort, ht.find?_eq_some he, Option.bind_some]

theorem WellFormed.flushPort_twice (ht : t.WellFormed) (hport : f.port = port.map (·.val)) (now : Int) :
    (t.flushPort f port now).1.flushPort f port now = ((t.flushPort f port now).1, []) := by
  refine flushPort_of_not_hit fun d hd => ?_
  obtain ⟨e, he, hd⟩ := mem_flushPort.1 hd
  exact isHit_flushed? hport (ht.entries e he).ports hd

theorem WellFormed.flushPort_comm (ht : t.WellFormed) {q : Option PortIndex}
    (hf : f.port = port.map (·.val)) (hg : g.port = q.map (·.val)) (now : Int) :
    ((t.flushPort f port now).1.flushPort g q now).1 =
      ((t.flushPort g q now).1.flushPort f port now).1 := by
  have hentries : ∀ e ∈ t.entries,
      (t.flushed? f port (stamp now) e).bind (t.flushed? g q (stamp now)) =
        (t.flushed? g q (stamp now) e).bind (t.flushed? f port (stamp now)) := by
    intro e he
    have hports := (ht.entries e he).ports
    ext d
    simp only [Option.bind_eq_some_iff]
    exact ⟨fun ⟨c, hc, hd⟩ => flushed?_flushed? hf hg hports hc hd,
      fun ⟨c, hc, hd⟩ => flushed?_flushed? hg hf hports hc hd⟩
  have hlist := (List.filterMap_filterMap (f := t.flushed? f port (stamp now))
    (g := t.flushed? g q (stamp now)) (l := t.entries)).trans ((List.filterMap_congr hentries).trans
      List.filterMap_filterMap.symm)
  exact congrArg (fun entries => ({ t with entries } : Fdb)) hlist

/-! ### Key by key -/

/-- The table after a flush of the entry of one key. -/
def flushKey (t : Fdb) (f : FlushFilter) (port : Option PortIndex) (now : Int) (key : Key) : Fdb :=
  { t with entries := t.entries.filterMap fun e =>
      if e.key = key then t.flushed? f port (stamp now) e else some e }

theorem WellFormed.flushKey (ht : t.WellFormed) (f : FlushFilter) (port : Option PortIndex) (now : Int)
    (key : Key) : (t.flushKey f port now key).WellFormed := by
  have hsame : ∀ {e d}, (if e.key = key then t.flushed? f port (stamp now) e else some e) = some d →
      d.key = e.key := by
    intro e d h
    split at h
    · exact (shrunk_of_flushed? h).key
    · rw [Option.some.inj h]
  refine ⟨List.Pairwise.filterMap _ ?_ ht.sorted, ?_⟩
  · intro a b hab c hc d hd
    unfold rank at hab ⊢
    rw [hsame hc, hsame hd]
    exact hab
  · intro d hd
    obtain ⟨e, he, hd⟩ := List.mem_filterMap.1 hd
    split at hd
    · exact wellFormed_of_flushed? (ht.entries e he) hd
    · rw [← Option.some.inj hd]
      exact ht.entries e he

/-- Keys may be listed first and looked at one by one, in any order: the entries whose keys are listed are
flushed, and a key that is listed twice makes no difference. -/
theorem WellFormed.flushKeys_eq (ht : t.WellFormed) (hport : f.port = port.map (·.val)) (now : Int)
    (keys : List Key) : keys.foldl (Fdb.flushKey · f port now) t = { t with
      entries := t.entries.filterMap fun e =>
        if e.key ∈ keys then t.flushed? f port (stamp now) e else some e } := by
  induction keys generalizing t with
  | nil => simp only [List.foldl_nil, List.not_mem_nil, if_false, List.filterMap_some]
  | cons key keys ih =>
    have hsame : (t.flushKey f port now key).flushed? = t.flushed? := rfl
    rw [List.foldl_cons, ih (ht.flushKey f port now key), hsame]
    unfold Fdb.flushKey
    rw [List.filterMap_filterMap]
    refine congrArg (fun entries => ({ t with entries } : Fdb)) (List.filterMap_congr fun e he => ?_)
    by_cases hkey : e.key = key
    · rw [if_pos hkey, if_pos (hkey ▸ List.mem_cons_self ..)]
      cases hd : t.flushed? f port (stamp now) e with
      | none => rfl
      | some d =>
        have hagain : t.flushed? f port (stamp now) d = some d := by
          unfold flushed?
          rw [isHit_flushed? hport (ht.entries e he).ports hd, if_neg Bool.false_ne_true]
        rw [Option.bind_some, hagain, ite_self]
    · have hmem : e.key ∈ key :: keys ↔ e.key ∈ keys := by
        rw [List.mem_cons, or_iff_right hkey]
      simp only [if_neg hkey, Option.bind_some, hmem]

/-- A flush comes to the same as first to list the keys of the entries that it hits and then to flush these
entries one after the other. -/
theorem WellFormed.flushKeys_hit (ht : t.WellFormed) (hport : f.port = port.map (·.val)) (now : Int)
    {keys : List Key} (hkeys : ∀ e ∈ t.entries, t.isHit f port (stamp now) e = true → e.key ∈ keys) :
    keys.foldl (Fdb.flushKey · f port now) t = (t.flushPort f port now).1 := by
  rw [ht.flushKeys_eq hport]
  unfold Fdb.flushPort
  refine congrArg (fun entries => ({ t with entries } : Fdb)) (List.filterMap_congr fun e he => ?_)
  split
  · rfl
  · rename_i hnot
    unfold flushed?
    rw [if_neg (mt (hkeys e he) hnot)]

/-- Whatever has been done to a table, a flush takes the filter's port, or all ports, out of the entries
that meet the filter's criteria, removes those that are left without a port, and leaves all else of them
and all other entries alone; it counts the entries that it removes. The same flush finds nothing more to
do, and of two flushes at the same time either may come first. -/
theorem flush_subtracts_ports (ageing : Nat) (actions : List Action) {f : FlushFilter}
    (hf : f.InRange) (now : Int) :
    let t := ({ ageing } : Fdb).actAll actions
    ∃ u gone, t.flush f now = .ok (u, gone) ∧
      (∀ key, t.find? key = none → u.find? key = none) ∧
      (∀ key e, t.find? key = some e → ¬ f.Meets t.ageing (stamp now) e → u.find? key = some e) ∧
      (∀ key e, t.find? key = some e → f.Meets t.ageing (stamp now) e →
        (u.find? key = none ↔ ∀ i ∈ e.ports, ¬ f.Spares i) ∧
        ∀ d, u.find? key = some d → d.key = e.key ∧ d.origin = e.origin ∧
          d.lastSeen = e.lastSeen ∧ ∀ i, i ∈ d.ports ↔ i ∈ e.ports ∧ f.Spares i) ∧
      gone.length = t.entries.countP (fun e => (u.find? e.key).isNone) ∧
      u.flush f now = .ok (u, []) ∧
      ∀ g : FlushFilter, g.InRange → ∃ v w gone₁ gone₂ gone₃,
        u.flush g now = .ok (v, gone₁) ∧
        t.flush g now = .ok (w, gone₂) ∧ w.flush f now = .ok (v, gone₃) := by
  intro t
  have ht : t.WellFormed := (WellFormed.empty ageing).actAll actions
  obtain ⟨port, hport, hflush⟩ := flush_eq_flushPort hf
  have hfind := ht.sorted.find?_flushPort f port now
  refine ⟨(t.flushPort f port now).1, (t.flushPort f port now).2, hflush t now, ?_, ?_, ?_,
    ht.sorted.count_flushPort f port now, ?_, ?_⟩
  · intro key hnone
    rw [hfind, hnone]
    rfl
  · intro key e he hmeets
    have hports := (ht.entries e (mem_of_find? he)).ports
    rw [hfind, he, Option.bind_some, flushed?_eq_some_iff hport hports]
    exact ⟨.refl fun h => absurd h hmeets, hports⟩
  · intro key e he hmeets
    have hports := (ht.entries e (mem_of_find? he)).ports
    rw [hfind, he, Option.bind_some, flushed?_eq_none_iff hport hports, and_iff_right hmeets]
    refine ⟨Iff.rfl, fun d hd => ?_⟩
    obtain ⟨hleaves, -⟩ := (flushed?_eq_some_iff hport hports).1 hd
    refine ⟨hleaves.key, hleaves.origin, hleaves.lastSeen, fun i => ?_⟩
    rw [hleaves.ports, imp_iff_right hmeets]
  · rw [hflush, ht.flushPort_twice hport]
  · intro g hg
    obtain ⟨q, hq, hflush'⟩ := flush_eq_flushPort hg
    let u := (t.flushPort f port now).1
    let w := (t.flushPort g q now).1
    refine ⟨(u.flushPort g q now).1, w, _, _, (w.flushPort f port now).2, hflush' u now,
      hflush' t now, ?_⟩
    rw [hflush, ht.flushPort_comm hport hq]

/-- A group with two ports and a station at one of them. Without this port the group has the other left and
the station none. -/
theorem flush_subtracts_ports_group :
    let group : Key := ⟨Vid.zero, .ipv4 ⟨239, 1, 1, 1⟩⟩
    let t := ({ ageing := 1000 } : Fdb).actAll
      [.addStatic group (PortSet.ofList [1, 2]) .external 3, .learn ⟨2, 0, 0, 0, 0, 9⟩ Vid.zero 1 4]
    let f : FlushFilter := { port := some 1, vid := some Vid.zero }
    f.InRange ∧ ∃ u gone, t.flush f 5 = .ok (u, gone) ∧ u.flush f 5 = .ok (u, []) ∧
      u.entries = [⟨group, .external, PortSet.singleton 2, 3⟩] ∧ gone.length = 1 ∧
      t.entries.countP (fun e => (u.find? e.key).isNone) = 1 := by
  intro group t f
  have hf : f.InRange := by
    rintro n hn
    cases hn
    decide
  obtain ⟨u, gone, hflush, -, -, -, hcount, hagain, -⟩ := flush_subtracts_ports 1000
    [.addStatic group (PortSet.ofList [1, 2]) .external 3, .learn ⟨2, 0, 0, 0, 0, 9⟩ Vid.zero 1 4] hf 5
  have hresult : t.flush f 5 = .ok (⟨[⟨group, .external, PortSet.singleton 2, 3⟩], 1000⟩,
      [⟨Key.mac Vid.zero ⟨2, 0, 0, 0, 0, 9⟩, .dynamic, ∅, 4⟩]) := by decide +kernel
  obtain ⟨hu, hgone⟩ := Prod.mk.inj (Except.ok.inj (hflush.symm.trans hresult))
  have hone : gone.length = 1 := congrArg List.length hgone
  exact ⟨hf, u, gone, hflush, hagain, congrArg Fdb.entries hu, hone, hcount.symm.trans hone⟩

end Fdb

end VlanBridge
