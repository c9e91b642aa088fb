import VlanBridge.Proofs.Entries
import VlanBridge.Proofs.KeyOrder
/-!
# Well-formed entries

Whatever is done to a forwarding table that starts empty, each entry has a port; a dynamic entry has one
port and the address of a station; a static entry does not have the zero address; and the entries are
listed each once, in the order of their keys (`wellFormed_actAll`). Actions that fail leave the table as
it was, so they may stand in a run as well.
-/

namespace VlanBridge

open VlanBridge.Net

/-- What an entry keeps to, wherever it comes from. -/
structure Entry.WellFormed (e : Entry) : Prop where
  ports : e.ports ≠ ∅
  dynamic : e.origin = .dynamic → ∃ m i, e.key.address = .mac m ∧ m.isGroup = false ∧ m ≠ Mac.zero ∧
    e.ports = PortSet.singleton i
  static : e.origin ≠ .dynamic → e.key.address ≠ .mac Mac.zero

namespace Fdb

/-- What can be done to a forwarding table. The port of `learn` is a number that may name no slot. -/
inductive Action where
  | learn (src : Mac) (vid : Vid) (port : Nat) (now : Int)
  | addStatic (key : Key) (ports : PortSet) (origin : Origin) (now : Int)
  | remove (key : Key)
  | flush (filter : FlushFilter) (now : Int)
  | sweep (now : Int)

/-- The table after an action; one that fails leaves it as it was. -/
def act (t : Fdb) : Action → Fdb
  | .learn src vid port now =>
    match t.learnNumbered src vid port now with
    | .ok (u, _) => u
    | .error _ => t
  | .addStatic key ports origin now =>
    match t.addStatic key ports origin now with
    | .ok (u, _) => u
    | .error _ => t
  | .remove key =>
    match t.remove key with
    | .ok (u, _) => u
    | .error _ => t
  | .flush filter now =>
    match t.flush filter now with
    | .ok (u, _) => u
    | .error _ => t
  | .sweep now => (t.sweep now).1

def actAll (t : Fdb) (actions : List Action) : Fdb := actions.foldl act t

/-- What holds of every table. -/
structure WellFormed (t : Fdb) : Prop where
  sorted : t.Sorted
  entries : ∀ e ∈ t.entries, e.WellFormed

variable {t : Fdb}

/-! ### Each action -/

theorem WellFormed.learn (ht : t.WellFormed) (src : Mac) (vid : Vid) (i : PortIndex) (now : Int) :
    (t.learn src vid i now).1.WellFormed := by
  by_cases hsrc : src.isStation = true
  · have hstation : src.isGroup = false ∧ src ≠ Mac.zero := by
      simpa [Mac.isStation, Mac.isZero] using hsrc
    have hsingle : PortSet.singleton i ≠ ∅ := by
      intro he
      have hi : i ∈ PortSet.singleton i := PortSet.mem_singleton.2 rfl
      rw [he] at hi
      exact PortSet.not_mem_empty i hi
    refine ⟨ht.sorted.learn src vid i now, ?_⟩
    intro d hd
    rcases mem_learn hd with ⟨e, he, hkey, horigin, hports⟩ | ⟨hkey, horigin, hports⟩
    · have hw := ht.entries e he
      refine ⟨?_, ?_, ?_⟩
      · rcases hports with hports | hports
        · rw [hports]
          exact hw.ports
        · rw [hports]
          exact hsingle
      · intro hd
        rw [horigin] at hd
        obtain ⟨m, j, haddress, hgroup, hzero, hone⟩ := hw.dynamic hd
        rw [hkey]
        rcases hports with hports | hports
        · exact ⟨m, j, haddress, hgroup, hzero, hports.trans hone⟩
        · exact ⟨m, i, haddress, hgroup, hzero, hports⟩
      · intro hd
        rw [horigin] at hd
        rw [hkey]
        exact hw.static hd
    · refine ⟨?_, ?_, fun hd => absurd horigin hd⟩
      · rw [hports]
        exact hsingle
      · intro _
        rw [hkey]
        exact ⟨src, i, rfl, hstation.1, hstation.2, hports⟩
  · have hsame : t.learn src vid i now = (t, .ignored) := by
      simp only [Fdb.learn, hsrc, Bool.not_false, if_true]
    rw [hsame]
    exact ht

theorem WellFormed.learnNumbered (ht : t.WellFormed) {src : Mac} {vid : Vid} {n : Nat} {now : Int}
    {u : Fdb} {outcome : LearnOutcome} (h : t.learnNumbered src vid n now = .ok (u, outcome)) :
    u.WellFormed := by
  unfold Fdb.learnNumbered at h
  split at h
  · rename_i i _
    have hu : (t.learn src vid i now).1 = u := congrArg Prod.fst (Except.ok.inj h)
    rw [← hu]
    exact ht.learn src vid i now
  · -- without a slot nothing is learned
    split at h
    · cases h
      exact ht
    · split at h
      · split at h
        · cases h
        · cases h
          exact ht
      · cases h

theorem WellFormed.addStatic (ht : t.WellFormed) {key : Key} {ports : PortSet} {origin : Origin}
    {now : Int} {u : Fdb} {replaced : Option Entry}
    (h : t.addStatic key ports origin now = .ok (u, replaced)) : u.WellFormed := by
  obtain ⟨hports, haddress⟩ := admits_of_addStatic h
  obtain ⟨horigin, rfl⟩ := addStatic_eq_ok h
  refine ⟨ht.sorted.insert _, ?_⟩
  intro d hd
  rcases Ordered.mem_of_mem_insert hd with rfl | hd
  · exact ⟨hports, fun hd => absurd hd horigin, fun _ => haddress⟩
  · exact ht.entries d hd

theorem WellFormed.remove (ht : t.WellFormed) {key : Key} {u : Fdb} {e : Entry}
    (h : t.remove key = .ok (u, e)) : u.WellFormed := by
  rw [remove_eq_ok h]
  refine ⟨Ordered.ascending_filter _ ht.sorted, ?_⟩
  intro d hd
  exact ht.entries d (List.mem_filter.1 hd).1

/-- An entry with one port loses it to every flush that hits the entry. -/
theorem portsWithout_eq_empty {e : Entry} {port : Option PortIndex} {i : PortIndex}
    (hone : e.ports = PortSet.singleton i) (hsends : e.sendsTo port = true) :
    e.portsWithout port = ∅ := by
  cases port with
  | none => rfl
  | some k =>
    have hk : k ∈ e.ports := by simpa [Entry.sendsTo] using hsends
    rw [hone, PortSet.mem_singleton] at hk
    subst hk
    ext j
    simp only [Entry.portsWithout, hone, PortSet.mem_erase, PortSet.mem_singleton,
      PortSet.not_mem_empty, iff_false, not_and]
    exact fun hne => hne

theorem wellFormed_of_flushed? {f : FlushFilter} {port : Option PortIndex} {now : Nat} {e d : Entry}
    (he : e.WellFormed) (h : t.flushed? f port now e = some d) : d.WellFormed := by
  unfold flushed? at h
  split at h
  · rename_i hhit
    have hsends : e.sendsTo port = true := by
      unfold isHit at hhit
      exact (Bool.and_eq_true_iff.1 hhit).2
    split at h
    · cases h
    · rename_i hleft
      cases h
      have hports : e.portsWithout port ≠ ∅ := fun hnone => hleft (PortSet.isEmpty_iff.2 hnone)
      refine ⟨hports, ?_, he.static⟩
      -- of a dynamic entry nothing would be left
      intro hd
      obtain ⟨m, i, -, -, -, hone⟩ := he.dynamic hd
      exact absurd (portsWithout_eq_empty hone hsends) hports
  · cases h
    exact he

theorem WellFormed.flushPort (ht : t.WellFormed) (f : FlushFilter) (port : Option PortIndex)
    (now : Int) : (t.flushPort f port now).1.WellFormed := by
  refine ⟨ht.sorted.flushPort f port now, ?_⟩
  intro d hd
  obtain ⟨e, he, hd⟩ := mem_flushPort.1 hd
  exact wellFormed_of_flushed? (ht.entries e he) hd

theorem WellFormed.flush (ht : t.WellFormed) {f : FlushFilter} {now : Int} {u : Fdb}
    {gone : List Entry} (h : t.flush f now = .ok (u, gone)) : u.WellFormed := by
  unfold Fdb.flush at h
  split at h
  · have hu : (t.flushPort f none now).1 = u := congrArg Prod.fst (Except.ok.inj h)
    rw [← hu]
    exact ht.flushPort f none now
  · split at h
    · rename_i i _
      have hu : (t.flushPort f (some i) now).1 = u := congrArg Prod.fst (Except.ok.inj h)
      rw [← hu]
      exact ht.flushPort f (some i) now
    · split at h
      · cases h
      · cases h
        exact ht

/-! ### Runs -/

theorem WellFormed.act (ht : t.WellFormed) (a : Action) : (t.act a).WellFormed := by
  cases a with
  | learn src vid port now =>
    simp only [Fdb.act]
    split
    · exact ht.learnNumbered ‹_›
    · exact ht
  | addStatic key ports origin now =>
    simp only [Fdb.act]
    split
    · exact ht.addStatic ‹_›
    · exact ht
  | remove key =>
    simp only [Fdb.act]
    split
    · exact ht.remove ‹_›
    · exact ht
  | flush filter now =>
    simp only [Fdb.act]
    split
    · exact ht.flush ‹_›
    · exact ht
  | sweep now => exact ht.flushPort FlushFilter.aged none now

theorem WellFormed.actAll (ht : t.WellFormed) (actions : List Action) :
    (t.actAll actions).WellFormed := by
  induction actions generalizing t with
  | nil => exact ht
  | cons a as ih => exact ih (ht.act a)

theorem WellFormed.empty (ageing : Nat) : ({ ageing } : Fdb).WellFormed :=
  ⟨List.Pairwise.nil, fun _ he => nomatch he⟩

/-- Each entry is found under its key, since no other has its rank. -/
theorem Sorted.find?_eq_some (ht : t.Sorted) {e : Entry} (he : e ∈ t.entries) :
    t.find? e.key = some e := by
  have hsome : (t.find? e.key).isSome := by
    unfold find?
    rw [List.find?_isSome]
    exact ⟨e, he, by simp⟩
  obtain ⟨d, hd⟩ := Option.isSome_iff_exists.1 hsome
  have hrank : rank d = rank e := by
    unfold rank
    rw [find?_key hd]
  rw [hd, Ordered.eq_of_rank_eq ht (mem_of_find? hd) he hrank]

theorem Sorted.places (ht : t.Sorted) (now : Int) :
    ((t.records now).map (·.key.place)).Pairwise (· < ·) := by
  have hplaces : (t.records now).map (·.key.place) = t.entries.map (·.key.place) := by
    simp only [records, List.map_map]
    rfl
  rw [hplaces, List.pairwise_map]
  exact ht.imp Key.rank_lt_iff.1

/-- After any run, each entry is found under its own key and no other and is well-formed, and a listing
shows each entry once, by ascending keys: by VLAN, then MAC before IPv4 before IPv6, then by address. -/
theorem wellFormed_actAll (ageing : Nat) (actions : List Action) (now : Int) :
    let t := ({ ageing } : Fdb).actAll actions
    (∀ key e, t.find? key = some e ↔ e ∈ t.entries ∧ e.key = key) ∧
    (∀ e ∈ t.entries, e.WellFormed) ∧
    ((t.records now).map (·.key.place)).Pairwise (· < ·) ∧
    ∀ r, r ∈ t.records now ↔ ∃ key e, t.find? key = some e ∧ r = e.record (stamp now) := by
  intro t
  have ht : t.WellFormed := (WellFormed.empty ageing).actAll actions
  have hfind : ∀ key e, t.find? key = some e ↔ e ∈ t.entries ∧ e.key = key := by
    intro key e
    constructor
    · intro h
      exact ⟨mem_of_find? h, find?_key h⟩
    · rintro ⟨he, rfl⟩
      exact ht.sorted.find?_eq_some he
  refine ⟨hfind, ht.entries, ht.sorted.places now, ?_⟩
  intro r
  simp only [records, List.mem_map]
  constructor
  · rintro ⟨e, he, rfl⟩
    exact ⟨e.key, e, (hfind _ _).2 ⟨he, rfl⟩, rfl⟩
  · rintro ⟨key, e, he, rfl⟩
    exact ⟨e, ((hfind _ _).1 he).1, rfl⟩

end Fdb

end VlanBridge
