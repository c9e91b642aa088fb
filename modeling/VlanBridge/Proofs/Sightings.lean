import Mathlib.Data.Finset.Card
import Mathlib.Data.Finset.Lattice.Lemmas
import VlanBridge.Proofs.StaticEntries
/-!
# Stations seen again and again

A table that starts with static entries only is told of addresses seen in VLANs at ports, at times that may
go back. The sightings of a station under a key without a static entry are all that counts
(`Sighting.under`). Of them the last tells where the station is and the largest point of time tells when it
was seen; these may be two sightings. The first brings the entry in, and one at another port than the one
before it is a move.
-/

namespace VlanBridge

open VlanBridge.Net

/-- An address is seen in a VLAN at a port. -/
structure Sighting where
  src : Mac
  vid : Vid
  port : PortIndex
  now : Int

namespace Sighting

def key (c : Sighting) : Key := Key.mac c.vid c.src

/-- The address is a station's, and the table has no entry of its own for it. -/
def Counts (t : Fdb) (c : Sighting) : Prop := c.src.isStation = true ∧ t.find? c.key = none

instance (t : Fdb) (c : Sighting) : Decidable (c.Counts t) := inferInstanceAs (Decidable (_ ∧ _))

/-- The sightings under a key that count. -/
def under (t : Fdb) (key : Key) (calls : List Sighting) : List Sighting :=
  calls.filter fun c => c.key = key ∧ c.Counts t

/-- After some sightings, a station is seen at another port than it was seen at last. -/
def Moves (t : Fdb) (before : List Sighting) (c : Sighting) : Prop :=
  c.Counts t ∧ ∃ d ∈ (under t c.key before).getLast?, d.port ≠ c.port

instance (t : Fdb) (before : List Sighting) (c : Sighting) : Decidable (c.Moves t before) :=
  inferInstanceAs (Decidable (_ ∧ _))

/-- How many sightings are moves, each after those before it. -/
def moves (t : Fdb) (calls : List Sighting) : Nat :=
  calls.zipIdx.countP fun c => c.1.Moves t (calls.take c.2)

/-- The keys of the sightings that count. -/
def keys (t : Fdb) (calls : List Sighting) : Finset Key :=
  ((calls.filter fun c => c.Counts t).map key).toFinset

/-- The entry that some sightings of a station amount to. -/
def located? (key : Key) (seen : List Sighting) : Option Entry :=
  match seen.getLast?, (seen.map (stamp ·.now)).max? with
  | some c, some lastSeen => some ⟨key, .dynamic, PortSet.singleton c.port, lastSeen⟩
  | _, _ => none

variable {t : Fdb} {calls before : List Sighting} {c : Sighting} {key : Key}

/-! ### One more sighting -/

theorem under_concat (t : Fdb) (key : Key) (calls : List Sighting) (c : Sighting) :
    under t key (calls ++ [c]) =
      if c.key = key ∧ c.Counts t then under t key calls ++ [c] else under t key calls := by
  unfold under
  rw [List.filter_append, List.filter_singleton]
  by_cases h : c.key = key ∧ c.Counts t
  · simp only [h, and_self, decide_true, if_true, cond_true]
  · simp only [h, decide_false, if_false, cond_false, List.append_nil]

theorem moves_concat (t : Fdb) (calls : List Sighting) (c : Sighting) :
    moves t (calls ++ [c]) = moves t calls + if c.Moves t calls then 1 else 0 := by
  have hold : calls.zipIdx.countP (fun d => d.1.Moves t ((calls ++ [c]).take d.2)) =
      moves t calls := by
    refine List.countP_congr fun d hd => ?_
    have hlt : d.2 < calls.length := by
      have := List.snd_lt_add_of_mem_zipIdx hd
      omega
    rw [List.take_append_of_le_length (Nat.le_of_lt hlt)]
  unfold moves at hold ⊢
  rw [List.zipIdx_append, List.countP_append, hold]
  simp only [List.zipIdx_singleton, List.countP_singleton, Nat.zero_add, List.take_left,
    decide_eq_true_eq]

theorem mem_under : c ∈ under t key calls ↔ c ∈ calls ∧ c.key = key ∧ c.Counts t := by
  unfold under
  rw [List.mem_filter, decide_eq_true_eq]

theorem find?_of_mem_under (h : c ∈ under t key calls) : t.find? key = none := by
  obtain ⟨-, rfl, hcounts⟩ := mem_under.1 h
  exact hcounts.2

theorem exists_mem_under_iff :
    (∃ c, c ∈ under t key calls) ↔ ∃ c ∈ calls, c.Counts t ∧ c.key = key := by
  simp only [mem_under, and_comm (a := _ = key)]

theorem mem_keys_iff : key ∈ keys t calls ↔ under t key calls ≠ [] := by
  have hkeys : key ∈ keys t calls ↔ ∃ c ∈ calls, c.Counts t ∧ c.key = key := by
    unfold keys
    simp only [List.mem_toFinset, List.mem_map, List.mem_filter, decide_eq_true_eq, and_assoc]
  rw [hkeys, ← exists_mem_under_iff]
  exact ⟨fun ⟨_, hc⟩ => List.ne_nil_of_mem hc, List.exists_mem_of_ne_nil _⟩

theorem card_keys_concat (t : Fdb) (calls : List Sighting) (c : Sighting) :
    (keys t (calls ++ [c])).card =
      (keys t calls).card + if c.Counts t ∧ under t c.key calls = [] then 1 else 0 := by
  have hafter : keys t (calls ++ [c]) =
      if c.Counts t then insert c.key (keys t calls) else keys t calls := by
    unfold keys
    rw [List.filter_append, List.filter_singleton]
    by_cases h : c.Counts t
    · simp only [h, decide_true, if_true, cond_true, List.map_append, List.map_cons, List.map_nil,
        List.toFinset_append]
      ext key
      simp
    · simp only [h, decide_false, if_false, cond_false, List.append_nil]
  rw [hafter]
  by_cases h : c.Counts t
  · by_cases hnew : under t c.key calls = []
    · rw [if_pos h, if_pos ⟨h, hnew⟩, Finset.card_insert_of_notMem (mt mem_keys_iff.1 (not_not.2 hnew))]
    · rw [if_pos h, if_neg fun hboth => hnew hboth.2, Finset.card_insert_of_mem (mem_keys_iff.2 hnew),
        Nat.add_zero]
  · rw [if_neg h, if_neg fun hboth => h hboth.1, Nat.add_zero]

theorem max?_concat (ns : List Nat) (n : Nat) : (ns ++ [n]).max? = some (ns.max?.elim n (max · n)) := by
  cases ns with
  | nil => rfl
  | cons m ms => simp only [List.cons_append, List.max?_cons', List.foldl_append, List.foldl_cons,
      List.foldl_nil, Option.elim_some]

theorem located?_eq_some {seen : List Sighting} {e : Entry} (h : located? key seen = some e) :
    e.key = key ∧ e.origin = .dynamic ∧
      (∃ d, seen.getLast? = some d ∧ e.ports = PortSet.singleton d.port) ∧
      (seen.map (stamp ·.now)).max? = some e.lastSeen := by
  unfold located? at h
  split at h
  · rename_i d n hlast hmax
    cases h
    exact ⟨rfl, rfl, ⟨d, hlast, rfl⟩, hmax⟩
  · cases h

theorem exists_located? (key : Key) {seen : List Sighting} (h : seen ≠ []) :
    ∃ e, located? key seen = some e := by
  obtain ⟨before, c, rfl⟩ := List.eq_nil_or_concat seen |>.resolve_left h
  unfold located?
  rw [List.concat_eq_append, List.getLast?_concat, List.map_append, List.map_singleton, max?_concat]
  exact ⟨_, rfl⟩

/-- What another sighting makes of the entry of a station that was seen before. -/
theorem located?_concat {seen : List Sighting} {e : Entry} (h : located? key seen = some e) (c : Sighting) :
    located? key (seen ++ [c]) = some (Fdb.seen e c.port (stamp c.now)) := by
  obtain ⟨hkey, horigin, ⟨d, hlast, hports⟩, hmax⟩ := located?_eq_some h
  have hplace := Fdb.ports_seen hports c.port (stamp c.now)
  unfold located?
  rw [List.getLast?_concat, List.map_append, List.map_singleton, max?_concat, hmax, Option.elim_some]
  simp only [Option.some.injEq]
  rw [← hplace, ← hkey, ← horigin]
  rfl

end Sighting

/-! ### What a sighting does -/

namespace Fdb

theorem Sorted.find?_insert {t : Fdb} (ht : t.Sorted) (e : Entry) (key : Key) :
    (t.insert e).find? key = if key = e.key then some e else t.find? key := by
  split
  · rename_i hkey
    rw [hkey]
    exact (ht.insert e).find?_eq_some Ordered.mem_insert_self
  · rename_i hkey
    exact t.find?_insert_of_ne (Ne.symm hkey)

end Fdb

namespace Learning

open Sighting

/-- The table after an address was seen. -/
def see (s : Learning) (c : Sighting) : Learning := (s.learn c.src c.vid c.port c.now).1

def seeAll (s : Learning) (calls : List Sighting) : Learning := calls.foldl see s

/-- What some sightings have made of a table, with the counters of new entries and of moves. -/
structure Tells (s : Learning) (calls : List Sighting) (u : Learning) : Prop where
  sorted : u.fdb.Sorted
  found : ∀ key, u.fdb.find? key = (s.fdb.find? key).or (located? key (under s.fdb key calls))
  learned : u.counters.learned = s.counters.learned + UInt64.ofNat (keys s.fdb calls).card
  moved : u.counters.stationMoves = s.counters.stationMoves + UInt64.ofNat (moves s.fdb calls)

variable {s u : Learning} {calls : List Sighting} {c : Sighting}

theorem see_eq {t : Fdb} {outcome : LearnOutcome}
    (h : u.fdb.learn c.src c.vid c.port c.now = (t, outcome)) : u.see c = u.learnedAs t outcome := by
  unfold see learn
  rw [h]

theorem Tells.nil (hsorted : s.fdb.Sorted) : s.Tells [] s := by
  refine ⟨hsorted, fun key => ?_, ?_, ?_⟩
  · exact Option.or_none.symm
  · exact (UInt64.add_zero _).symm
  · exact (UInt64.add_zero _).symm

/-- A sighting that does not count changes nothing. -/
theorem Tells.idle (h : s.Tells calls u) (hstatic : ∀ e ∈ s.fdb.entries, e.origin ≠ .dynamic)
    (hcounts : ¬ c.Counts s.fdb) : s.Tells (calls ++ [c]) (u.see c) := by
  have hsame : u.see c = u := by
    by_cases hsrc : c.src.isStation = true
    · obtain ⟨e, he⟩ := Option.ne_none_iff_exists'.1 fun hnone => hcounts ⟨hsrc, hnone⟩
      have hfind : u.fdb.find? c.key = some e := by
        rw [h.found, he, Option.some_or]
      rw [see_eq (Fdb.learn_of_kept hsrc hfind (hstatic e (Fdb.mem_of_find? he)) c.port c.now)]
      rfl
    · rw [see_eq (Fdb.learn_of_not_station hsrc c.port c.now)]
      rfl
  have hmoves : ¬ c.Moves s.fdb calls := fun hm => hcounts hm.1
  rw [hsame]
  refine ⟨h.sorted, fun key => ?_, ?_, ?_⟩
  · rw [under_concat, if_neg fun hboth => hcounts hboth.2]
    exact h.found key
  · rw [card_keys_concat, if_neg fun hboth => hcounts hboth.1]
    exact h.learned
  · rw [moves_concat, if_neg hmoves]
    exact h.moved

theorem ofNat_add_one (n : UInt64) (k : Nat) : n + UInt64.ofNat (k + 1) = n + UInt64.ofNat k + 1 := by
  rw [UInt64.ofNat_add, UInt64.add_assoc]
  rfl

/-- The first sighting under a key brings the entry in. -/
theorem Tells.first (h : s.Tells calls u) (hcounts : c.Counts s.fdb)
    (hnew : under s.fdb c.key calls = []) : s.Tells (calls ++ [c]) (u.see c) := by
  have hfind : u.fdb.find? c.key = none := by
    rw [h.found, hcounts.2, hnew]
    rfl
  let fresh : Entry := ⟨c.key, .dynamic, PortSet.singleton c.port, stamp c.now⟩
  have hsee : u.see c = u.learnedAs (u.fdb.insert fresh) .learned :=
    see_eq (Fdb.learn_of_new hcounts.1 hfind c.port c.now)
  have hmoves : ¬ c.Moves s.fdb calls := by
    rintro ⟨-, d, hd, -⟩
    rw [hnew] at hd
    cases hd
  rw [hsee]
  refine ⟨h.sorted.insert _, fun key => ?_, ?_, ?_⟩
  · have hinsert : (u.fdb.insert fresh).find? key = if key = c.key then some fresh else u.fdb.find? key :=
      h.sorted.find?_insert fresh key
    show (u.fdb.insert fresh).find? key = _
    rw [under_concat, hinsert]
    by_cases hkey : key = c.key
    · rw [if_pos hkey, if_pos ⟨hkey.symm, hcounts⟩, hkey, hcounts.2, hnew]
      rfl
    · rw [if_neg hkey, if_neg fun hboth => hkey hboth.1.symm]
      exact h.found key
  · rw [card_keys_concat, if_pos ⟨hcounts, hnew⟩, ofNat_add_one, ← h.learned]
    rfl
  · rw [moves_concat, if_neg hmoves]
    exact h.moved

/-- A later sighting locates the station anew and may be a move. -/
theorem Tells.again (h : s.Tells calls u) (hcounts : c.Counts s.fdb)
    (hseen : under s.fdb c.key calls ≠ []) : s.Tells (calls ++ [c]) (u.see c) := by
  obtain ⟨e, he⟩ := exists_located? c.key hseen
  obtain ⟨-, hdynamic, ⟨d, hlast, hports⟩, -⟩ := located?_eq_some he
  have hfind : u.fdb.find? c.key = some e := by
    rw [h.found, hcounts.2, he]
    rfl
  have hsee : u.see c = u.learnedAs (u.fdb.modify c.key (Fdb.seen · c.port (stamp c.now)))
      (if c.port ∈ e.ports then .refreshed else .moved) :=
    see_eq (Fdb.learn_of_dynamic hcounts.1 hfind hdynamic c.port c.now)
  have hmoves : c.Moves s.fdb calls ↔ c.port ∉ e.ports := by
    unfold Moves
    rw [hlast, hports, PortSet.mem_singleton]
    simp [hcounts, eq_comm]
  rw [hsee]
  refine ⟨h.sorted.modify _ fun _ => rfl, fun key => ?_, ?_, ?_⟩
  · have hmodify := u.fdb.find?_modify c.key key (Fdb.seen · c.port (stamp c.now)) fun _ => rfl
    show (u.fdb.modify c.key (Fdb.seen · c.port (stamp c.now))).find? key = _
    rw [under_concat, hmodify]
    by_cases hkey : key = c.key
    · rw [if_pos hkey, if_pos ⟨hkey.symm, hcounts⟩, hkey, hfind, hcounts.2, Option.none_or,
        located?_concat he]
      rfl
    · rw [if_neg hkey, if_neg fun hboth => hkey hboth.1.symm]
      exact h.found key
  · have hold : ¬ (c.Counts s.fdb ∧ under s.fdb c.key calls = []) := fun hboth => hseen hboth.2
    rw [card_keys_concat, if_neg hold, Nat.add_zero, ← h.learned]
    split <;> rfl
  · rw [moves_concat]
    by_cases hport : c.port ∈ e.ports
    · rw [if_neg (mt hmoves.1 (not_not.2 hport)), if_pos hport]
      exact h.moved
    · rw [if_pos (hmoves.2 hport), if_neg hport, ofNat_add_one, ← h.moved]
      rfl

theorem tells_seeAll (hsorted : s.fdb.Sorted) (hstatic : ∀ e ∈ s.fdb.entries, e.origin ≠ .dynamic)
    (calls : List Sighting) : s.Tells calls (s.seeAll calls) := by
  induction calls using List.reverseRecOn with
  | nil => exact .nil hsorted
  | append_singleton calls c ih =>
    have hlast : s.seeAll (calls ++ [c]) = (s.seeAll calls).see c := List.foldl_concat ..
    rw [hlast]
    by_cases hcounts : c.Counts s.fdb
    · by_cases hnew : under s.fdb c.key calls = []
      · exact ih.first hcounts hnew
      · exact ih.again hcounts hnew
    · exact ih.idle hstatic hcounts

theorem Tells.mem_iff (h : s.Tells calls u) {e : Entry} : e ∈ u.fdb.entries ↔
    (s.fdb.find? e.key).or (located? e.key (under s.fdb e.key calls)) = some e := by
  rw [← h.found, h.sorted.find?_eq_some_iff]
  exact (and_iff_left rfl).symm

theorem Tells.mem_dynamic_iff (h : s.Tells calls u)
    (hstatic : ∀ e ∈ s.fdb.entries, e.origin ≠ .dynamic) {e : Entry} (hdynamic : e.origin = .dynamic) :
    e ∈ u.fdb.entries ↔ located? e.key (under s.fdb e.key calls) = some e := by
  rw [h.mem_iff]
  constructor
  · intro hfind
    cases hold : s.fdb.find? e.key with
    | none => rwa [hold, Option.none_or] at hfind
    | some d =>
      rw [hold, Option.some_or] at hfind
      cases hfind
      exact absurd hdynamic (hstatic e (Fdb.mem_of_find? hold))
  · intro hentry
    obtain ⟨-, -, ⟨d, hlast, -⟩, -⟩ := located?_eq_some hentry
    rw [find?_of_mem_under (List.mem_of_getLast? hlast), Option.none_or, hentry]

theorem Tells.mem_static_iff (h : s.Tells calls u) (hsorted : s.fdb.Sorted) {e : Entry}
    (hstatic : e.origin ≠ .dynamic) : e ∈ u.fdb.entries ↔ e ∈ s.fdb.entries := by
  rw [h.mem_iff]
  constructor
  · intro hfind
    cases hold : s.fdb.find? e.key with
    | none =>
      rw [hold, Option.none_or] at hfind
      exact absurd (located?_eq_some hfind).2.1 hstatic
    | some d =>
      rw [hold, Option.some_or] at hfind
      cases hfind
      exact Fdb.mem_of_find? hold
  · intro he
    rw [hsorted.find?_eq_some he, Option.some_or]

/-- Whatever is seen, at whatever times, in a table without dynamic entries: there comes to be one dynamic
entry for each station seen under a key that had no entry. It has the port of the last sighting under the
key and the latest of their times. The entries that were there stay. The counters have grown by the number
of these keys, and by the number of sightings at another port than the one before under the key. -/
theorem last_place_latest_time (hsorted : s.fdb.Sorted)
    (hstatic : ∀ e ∈ s.fdb.entries, e.origin ≠ .dynamic) (calls : List Sighting) :
    let u := s.seeAll calls
    u.fdb.Sorted ∧
    (∀ key, (∃ e ∈ u.fdb.entries, e.origin = .dynamic ∧ e.key = key) ↔
      ∃ c ∈ calls, c.Counts s.fdb ∧ c.key = key) ∧
    (∀ e ∈ u.fdb.entries, e.origin = .dynamic →
      (∃ c, (under s.fdb e.key calls).getLast? = some c ∧ e.ports = PortSet.singleton c.port) ∧
      ((under s.fdb e.key calls).map (stamp ·.now)).max? = some e.lastSeen) ∧
    (∀ e, e.origin ≠ .dynamic → (e ∈ u.fdb.entries ↔ e ∈ s.fdb.entries)) ∧
    u.counters.learned = s.counters.learned + UInt64.ofNat (keys s.fdb calls).card ∧
    u.counters.stationMoves = s.counters.stationMoves + UInt64.ofNat (moves s.fdb calls) := by
  intro u
  have h : s.Tells calls u := tells_seeAll hsorted hstatic calls
  refine ⟨h.sorted, fun key => ?_, ?_, fun e he => h.mem_static_iff hsorted he, h.learned, h.moved⟩
  · rw [← exists_mem_under_iff]
    constructor
    · rintro ⟨e, he, hdynamic, rfl⟩
      obtain ⟨-, -, ⟨d, hlast, -⟩, -⟩ := located?_eq_some ((h.mem_dynamic_iff hstatic hdynamic).1 he)
      exact ⟨d, List.mem_of_getLast? hlast⟩
    · rintro ⟨c, hc⟩
      obtain ⟨e, he⟩ := exists_located? key (List.ne_nil_of_mem hc)
      obtain ⟨rfl, hdynamic, -⟩ := located?_eq_some he
      exact ⟨e, (h.mem_dynamic_iff hstatic hdynamic).2 he, hdynamic, rfl⟩
  · intro e he hdynamic
    obtain ⟨-, -, hlast, hmax⟩ := located?_eq_some ((h.mem_dynamic_iff hstatic hdynamic).1 he)
    exact ⟨hlast, hmax⟩

/-- One address has a static entry. A station is seen at two ports, the second time at an earlier time and the
third time before the table was made. -/
theorem last_place_latest_time_back :
    let fixed : Mac := ⟨2, 0, 0, 0, 0, 1⟩
    let roaming : Mac := ⟨2, 0, 0, 0, 0, 2⟩
    let s : Learning :=
      { fdb := { entries := [⟨Key.mac Vid.zero fixed, .user, PortSet.singleton 5, 0⟩], ageing := 1000 } }
    let calls : List Sighting := [⟨fixed, Vid.zero, 1, 7⟩, ⟨roaming, Vid.zero, 1, 10⟩,
      ⟨roaming, Vid.zero, 2, 4⟩, ⟨roaming, Vid.zero, 2, -3⟩, ⟨Mac.zero, Vid.zero, 3, 20⟩]
    let u := s.seeAll calls
    s.fdb.Sorted ∧ (∀ e ∈ s.fdb.entries, e.origin ≠ .dynamic) ∧
      u.counters.learned = 1 ∧ u.counters.stationMoves = 1 ∧
      ∃ e ∈ u.fdb.entries, e.origin = .dynamic ∧ e.key = Key.mac Vid.zero roaming ∧
        e.ports = PortSet.singleton 2 ∧ e.lastSeen = 10 := by
  intro fixed roaming s calls u
  have hsorted : s.fdb.Sorted := List.pairwise_singleton ..
  have hstatic : ∀ e ∈ s.fdb.entries, e.origin ≠ .dynamic := by
    intro e he
    rw [List.mem_singleton.1 he]
    decide
  obtain ⟨-, hdynamic, hplace, -, hlearned, hmoved⟩ := last_place_latest_time hsorted hstatic calls
  have hkeys : (keys s.fdb calls).card = 1 := by decide +kernel
  have hmoves : moves s.fdb calls = 1 := by decide +kernel
  have hlast : ((under s.fdb (Key.mac Vid.zero roaming) calls).getLast?.map (·.port)) = some 2 := by
    decide +kernel
  have hmax : ((under s.fdb (Key.mac Vid.zero roaming) calls).map (stamp ·.now)).max? = some 10 := by
    decide +kernel
  obtain ⟨e, he, horigin, hkey⟩ := (hdynamic (Key.mac Vid.zero roaming)).2
    ⟨⟨roaming, Vid.zero, 1, 10⟩, by simp [calls], by decide +kernel, rfl⟩
  obtain ⟨⟨c, hc, hports⟩, hseen⟩ := hplace e he horigin
  rw [hkey] at hc hseen
  rw [hc] at hlast
  rw [hkeys] at hlearned
  rw [hmoves] at hmoved
  refine ⟨hsorted, hstatic, hlearned, hmoved, e, he, horigin, hkey, ?_, ?_⟩
  · rw [hports, show c.port = 2 from Option.some.inj hlast]
  · exact Option.some.inj (hseen.symm.trans hmax)

end Learning

end VlanBridge
