import VlanBridge.Learning
import VlanBridge.Proofs.KeyOrder
/-!
# Where the entries of the forwarding table come from

For each operation of the forwarding table: which entries are there afterwards, in terms of those that
were there before. A flush only takes ports away; learning brings in the port of the sender, under the
sender's key; a static entry brings in the ports that it was installed with. A flush of one port leaves
the other ports of an entry, and an entry that comes in leaves the other keys alone (`SendsTo`). All of
them keep the entries in ascending order of their keys.
-/

namespace VlanBridge

open VlanBridge.Net

namespace Fdb

variable {t : Fdb}

/-! ### Flushing -/

theorem mem_portsWithout {e : Entry} {port : Option PortIndex} {i : PortIndex}
    (h : i ∈ e.portsWithout port) : i ∈ e.ports ∧ port ≠ some i := by
  cases port with
  | none => exact absurd h (PortSet.not_mem_empty i)
  | some j =>
    obtain ⟨hne, hi⟩ := PortSet.mem_erase.1 h
    refine ⟨hi, ?_⟩
    intro he
    exact hne (Option.some.inj he).symm

/-- An entry that a flush leaves is the entry it was, but that it may have lost ports. -/
structure Shrunk (e d : Entry) : Prop where
  key : d.key = e.key
  origin : d.origin = e.origin
  lastSeen : d.lastSeen = e.lastSeen
  ports : ∀ i ∈ d.ports, i ∈ e.ports

theorem shrunk_of_flushed? {f : FlushFilter} {port : Option PortIndex} {now : Nat} {e d : Entry}
    (h : t.flushed? f port now e = some d) : Shrunk e d := by
  unfold flushed? at h
  split at h
  · split at h
    · cases h
    · cases h
      exact ⟨rfl, rfl, rfl, fun i hi => (mem_portsWithout hi).1⟩
  · cases h
    exact ⟨rfl, rfl, rfl, fun i hi => hi⟩

/-- What is left of a covered entry does not send to the flushed port. -/
theorem not_mem_of_flushed? {f : FlushFilter} {i : PortIndex} {now : Nat} {e d : Entry}
    (h : t.flushed? f (some i) now e = some d) (hc : e.covered f t.ageing now = true) :
    i ∉ d.ports := by
  unfold flushed? at h
  split at h
  · split at h
    · cases h
    · cases h
      intro hi
      exact (mem_portsWithout hi).2 rfl
  · rename_i hhit
    cases h
    intro hi
    refine hhit ?_
    simp only [isHit, hc, Entry.sendsTo, hi, decide_true, Bool.and_self]

/-- A covered entry is removed if no port is given. -/
theorem flushed?_none_of_covered {f : FlushFilter} {now : Nat} {e : Entry}
    (hc : e.covered f t.ageing now = true) : t.flushed? f none now e = none := by
  have hempty : (e.portsWithout none).isEmpty = true := PortSet.isEmpty_iff.2 rfl
  simp only [flushed?, isHit, hc, Entry.sendsTo, Bool.and_self, if_true, hempty]

theorem mem_flushPort {f : FlushFilter} {port : Option PortIndex} {now : Int} {d : Entry} :
    d ∈ (t.flushPort f port now).1.entries ↔
      ∃ e ∈ t.entries, t.flushed? f port (stamp now) e = some d := List.mem_filterMap

theorem shrunk_of_mem_flushPort {f : FlushFilter} {port : Option PortIndex} {now : Int} {d : Entry}
    (h : d ∈ (t.flushPort f port now).1.entries) : ∃ e ∈ t.entries, Shrunk e d := by
  obtain ⟨e, he, hd⟩ := mem_flushPort.1 h
  exact ⟨e, he, shrunk_of_flushed? hd⟩

/-! ### Learning -/

/-- Learning leaves the table alone, since the address is none of a station or has a static entry; or it
puts a new entry in; or it updates the dynamic one under the key. -/
theorem learn_cases (t : Fdb) (src : Mac) (vid : Vid) (i : PortIndex) (now : Int) :
    (∃ outcome, outcome ≠ .learned ∧ t.learn src vid i now = (t, outcome) ∧
      (src.isStation = true → ∃ e, t.find? (Key.mac vid src) = some e ∧ e.origin ≠ .dynamic)) ∨
    (src.isStation = true ∧ t.find? (Key.mac vid src) = none ∧ t.learn src vid i now =
      (t.insert ⟨Key.mac vid src, .dynamic, PortSet.singleton i, stamp now⟩, .learned)) ∨
    ∃ e outcome, src.isStation = true ∧ t.find? (Key.mac vid src) = some e ∧ e.origin = .dynamic ∧
      outcome ≠ .learned ∧
      t.learn src vid i now = (t.modify (Key.mac vid src) (seen · i (stamp now)), outcome) := by
  unfold learn
  split
  · rename_i hsrc
    refine Or.inl ⟨.ignored, nofun, rfl, fun hstation => ?_⟩
    rw [hstation] at hsrc
    cases hsrc
  · rename_i hsrc
    have hstation : src.isStation = true := by simpa using hsrc
    simp only
    split
    · exact Or.inr (Or.inl ⟨hstation, ‹_›, rfl⟩)
    · rename_i e hfind
      split
      · refine Or.inr (Or.inr ⟨e, _, hstation, hfind, ‹_›, ?_, rfl⟩)
        split
        · nofun
        · nofun
      · exact Or.inl ⟨.static, nofun, rfl, fun _ => ⟨e, hfind, ‹_›⟩⟩

section Learn

variable {src : Mac} {vid : Vid} {e : Entry}

theorem learn_of_not_station (hsrc : ¬ src.isStation = true) (i : PortIndex) (now : Int) :
    t.learn src vid i now = (t, .ignored) := by
  unfold learn
  rw [if_pos (by simpa using hsrc)]

theorem learn_of_new (hsrc : src.isStation = true) (hfind : t.find? (Key.mac vid src) = none)
    (i : PortIndex) (now : Int) : t.learn src vid i now =
      (t.insert ⟨Key.mac vid src, .dynamic, PortSet.singleton i, stamp now⟩, .learned) := by
  unfold learn
  simp only [hsrc, Bool.not_true, Bool.false_eq_true, if_false, hfind]

theorem learn_of_dynamic (hsrc : src.isStation = true) (hfind : t.find? (Key.mac vid src) = some e)
    (hdynamic : e.origin = .dynamic) (i : PortIndex) (now : Int) : t.learn src vid i now =
      (t.modify (Key.mac vid src) (seen · i (stamp now)),
        if i ∈ e.ports then .refreshed else .moved) := by
  unfold learn
  simp only [hsrc, Bool.not_true, Bool.false_eq_true, if_false, hfind, hdynamic, if_true]

theorem learn_of_kept (hsrc : src.isStation = true) (hfind : t.find? (Key.mac vid src) = some e)
    (hstatic : e.origin ≠ .dynamic) (i : PortIndex) (now : Int) :
    t.learn src vid i now = (t, .static) := by
  unfold learn
  simp only [hsrc, Bool.not_true, Bool.false_eq_true, if_false, hfind, hstatic]

end Learn

/-- A station with one port is located at the port it was seen at, be it the same or another. -/
theorem ports_seen {e : Entry} {j : PortIndex} (h : e.ports = PortSet.singleton j) (i : PortIndex)
    (now : Nat) : (seen e i now).ports = PortSet.singleton i := by
  by_cases hsame : i ∈ e.ports
  · have hij : i = j := by rwa [h, PortSet.mem_singleton] at hsame
    subst hij
    exact (if_pos hsame).trans h
  · exact if_neg hsame

/-- An entry after learning is an entry from before, which may have moved to the sender's port, or the
new entry of the sender. -/
theorem mem_learn {src : Mac} {vid : Vid} {i : PortIndex} {now : Int} {d : Entry}
    (h : d ∈ (t.learn src vid i now).1.entries) :
    (∃ e ∈ t.entries, d.key = e.key ∧ d.origin = e.origin ∧
      (d.ports = e.ports ∨ d.ports = PortSet.singleton i)) ∨
    d.key = Key.mac vid src ∧ d.origin = .dynamic ∧ d.ports = PortSet.singleton i := by
  unfold learn at h
  split at h
  · exact Or.inl ⟨d, h, rfl, rfl, Or.inl rfl⟩
  · simp only at h
    split at h
    · rcases Ordered.mem_of_mem_insert h with rfl | h
      · exact Or.inr ⟨rfl, rfl, rfl⟩
      · exact Or.inl ⟨d, h, rfl, rfl, Or.inl rfl⟩
    · split at h
      · obtain ⟨e, he, hd⟩ := List.mem_map.1 h
        refine Or.inl ⟨e, he, ?_⟩
        split at hd
        · subst hd
          refine ⟨rfl, rfl, ?_⟩
          by_cases hi : i ∈ e.ports
          · exact Or.inl (if_pos hi)
          · exact Or.inr (if_neg hi)
        · subst hd
          exact ⟨rfl, rfl, Or.inl rfl⟩
      · exact Or.inl ⟨d, h, rfl, rfl, Or.inl rfl⟩

/-! ### Static entries -/

theorem addStatic_eq_ok {key : Key} {ports : PortSet} {origin : Origin} {now : Int} {u : Fdb}
    {replaced : Option Entry} (h : t.addStatic key ports origin now = .ok (u, replaced)) :
    origin ≠ .dynamic ∧ u = t.insert ⟨key, origin, ports, stamp now⟩ := by
  unfold addStatic at h
  split at h
  · cases h
  · rename_i horigin
    refine ⟨horigin, ?_⟩
    split at h
    · cases h
    · split at h
      · cases h
      · simp only at h
        split at h
        · cases h
          rfl
        · split at h
          · cases h
            rfl
          · cases h

/-- Only a dynamic entry gives way to a static one. -/
theorem dynamic_of_addStatic {key : Key} {ports : PortSet} {origin : Origin} {now : Int} {u : Fdb}
    {replaced : Option Entry} (h : t.addStatic key ports origin now = .ok (u, replaced)) {e : Entry}
    (hfind : t.find? key = some e) : e.origin = .dynamic := by
  refine Decidable.byContradiction fun hstatic => ?_
  unfold addStatic at h
  simp only [hfind, if_neg hstatic] at h
  split at h
  · cases h
  · split at h
    · cases h
    · split at h
      · cases h
      · cases h

/-- A static entry has a port, and its address is not the zero address. -/
theorem admits_of_addStatic {key : Key} {ports : PortSet} {origin : Origin} {now : Int} {u : Fdb}
    {replaced : Option Entry} (h : t.addStatic key ports origin now = .ok (u, replaced)) :
    ports ≠ ∅ ∧ key.address ≠ .mac Mac.zero := by
  unfold addStatic at h
  split at h
  · cases h
  · split at h
    · cases h
    · rename_i hempty
      split at h
      · cases h
      · rename_i hzero
        exact ⟨fun he => hempty (PortSet.isEmpty_iff.2 he), hzero⟩

theorem remove_eq_ok {key : Key} {u : Fdb} {e : Entry} (h : t.remove key = .ok (u, e)) :
    u = { t with entries := t.entries.filter (·.key != key) } := by
  unfold remove at h
  split at h
  · cases h
  · cases h
    rfl

/-! ### The ports under a key -/

/-- Frames for the key are sent to the port. -/
def SendsTo (t : Fdb) (key : Key) (i : PortIndex) : Prop :=
  ∃ e ∈ t.entries, e.key = key ∧ i ∈ e.ports

theorem mem_of_flushed? {f : FlushFilter} {i j : PortIndex} (hji : j ≠ i) {now : Nat} {e : Entry}
    (hj : j ∈ e.ports) : ∃ d, t.flushed? f (some i) now e = some d ∧ d.key = e.key ∧ j ∈ d.ports := by
  have hleft : j ∈ e.portsWithout (some i) := PortSet.mem_erase.2 ⟨hji, hj⟩
  unfold flushed?
  split
  · split
    · rename_i hempty
      exact absurd hleft (PortSet.isEmpty_iff_forall.1 hempty j)
    · exact ⟨_, rfl, rfl, hleft⟩
  · exact ⟨e, rfl, rfl, hj⟩

/-- A flush of one port takes no other port out of any entry. -/
theorem sendsTo_flushPort {f : FlushFilter} {i j : PortIndex} (hji : j ≠ i) {now : Int} {key : Key} :
    (t.flushPort f (some i) now).1.SendsTo key j ↔ t.SendsTo key j := by
  constructor
  · rintro ⟨d, hd, hkey, hj⟩
    obtain ⟨e, he, hshrunk⟩ := shrunk_of_mem_flushPort hd
    exact ⟨e, he, hshrunk.key.symm.trans hkey, hshrunk.ports j hj⟩
  · rintro ⟨e, he, hkey, hj⟩
    obtain ⟨d, hd, hsame, hj⟩ := mem_of_flushed? hji hj
    exact ⟨d, mem_flushPort.2 ⟨e, he, hd⟩, hsame.trans hkey, hj⟩

theorem sendsTo_flush {f : FlushFilter} {n : Nat} (hport : f.port = some n) {j : PortIndex}
    (hj : ¬ n = j.val) {now : Int} {u : Fdb} {gone : List Entry} (h : t.flush f now = .ok (u, gone))
    {key : Key} : u.SendsTo key j ↔ t.SendsTo key j := by
  unfold flush at h
  simp only [hport] at h
  split at h
  · rename_i i hi
    have hu : (t.flushPort f (some i) now).1 = u := congrArg Prod.fst (Except.ok.inj h)
    have hji : j ≠ i := by
      rintro rfl
      exact hj (PortIndex.val_of_ofNat? hi).symm
    rw [← hu]
    exact sendsTo_flushPort hji
  · split at h
    · cases h
    · cases h
      exact Iff.rfl

/-- An entry that comes in changes nothing under other keys. -/
theorem sendsTo_insert {e : Entry} {key : Key} (hkey : e.key ≠ key) {j : PortIndex} :
    (t.insert e).SendsTo key j ↔ t.SendsTo key j := by
  constructor
  · rintro ⟨d, hd, rfl, hj⟩
    rcases Ordered.mem_of_mem_insert hd with rfl | hd
    · exact absurd rfl hkey
    · exact ⟨d, hd, rfl, hj⟩
  · rintro ⟨d, hd, rfl, hj⟩
    exact ⟨d, Ordered.mem_insert_of_ne hd (mt Key.eq_of_rank_eq hkey), rfl, hj⟩

/-! ### The order of the entries -/

/-- The entries stand in strictly ascending order of their keys. -/
def Sorted (t : Fdb) : Prop := Ordered.Ascending rank t.entries

theorem Sorted.insert (h : t.Sorted) (e : Entry) : (t.insert e).Sorted := Ordered.ascending_insert h

theorem Sorted.flushPort (h : t.Sorted) (f : FlushFilter) (port : Option PortIndex) (now : Int) :
    (t.flushPort f port now).1.Sorted := by
  refine List.Pairwise.filterMap _ ?_ h
  intro a b hab c hc d hd
  have hca := (shrunk_of_flushed? hc).key
  have hdb := (shrunk_of_flushed? hd).key
  unfold rank at hab ⊢
  rw [hca, hdb]
  exact hab

theorem Sorted.modify (h : t.Sorted) (key : Key) {f : Entry → Entry} (hf : ∀ e, (f e).key = e.key) :
    (t.modify key f).Sorted := by
  refine Ordered.ascending_map _ ?_ h
  intro e
  unfold rank
  split
  · rw [hf]
  · rfl

theorem Sorted.learn (h : t.Sorted) (src : Mac) (vid : Vid) (i : PortIndex) (now : Int) :
    (t.learn src vid i now).1.Sorted := by
  unfold Fdb.learn
  split
  · exact h
  · simp only
    split
    · exact h.insert _
    · split
      · exact h.modify _ fun _ => rfl
      · exact h

end Fdb

namespace Learning

variable {s u : Learning} {gone : List Entry}

theorem flush_eq_ok {f : FlushFilter} {now : Int} (h : s.flush f now = .ok (u, gone)) :
    ∃ t, s.fdb.flush f now = .ok (t, gone) ∧ u = s.without t gone := by
  unfold flush at h
  split at h
  · cases h
    exact ⟨_, ‹_›, rfl⟩
  · cases h

theorem addStatic_eq_ok {key : Key} {ports : PortSet} {origin : Origin}
    (h : s.addStatic key ports origin = .ok (u, gone)) :
    ∃ t replaced, s.fdb.addStatic key ports origin s.clock = .ok (t, replaced) ∧
      u = s.without t gone := by
  unfold addStatic at h
  split at h
  · cases h
    exact ⟨_, _, ‹_›, rfl⟩
  · cases h

theorem remove_eq_ok {key : Key} (h : s.remove key = .ok (u, gone)) :
    ∃ t e, s.fdb.remove key = .ok (t, e) ∧ u = s.without t gone := by
  unfold remove at h
  split at h
  · cases h
    exact ⟨_, _, ‹_›, rfl⟩
  · cases h

end Learning

end VlanBridge
