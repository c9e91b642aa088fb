import VlanBridge.Proofs.PortAlgebra
import VlanBridge.Text.Number
/-!
# Listings of sets of ports

A set of ports is listed by a cursor: a step looks for the first member from the cursor on, gives it, and
moves behind it; when there is none, the cursor stands at the end for good. Steps give the members from the
lowest to the highest and then nothing, and a set is made again of what they gave. Numbers from outside make
a set unless one of them names no slot.
-/

namespace VlanBridge

open VlanBridge.Text.Number

namespace PortSet

variable {s : PortSet} {next : Nat}

/-! ### The cursor -/

/-- A step of a listing: the member found from the cursor on, if there is one, and where the cursor goes. -/
def stepAt (s : PortSet) (next : Nat) : Access (Option Nat × Nat) := do
  let found ← s.nextAt next
  if found = maxPorts then return (none, maxPorts)
  else return (some found, found + 1)

/-- What so many steps give. -/
def answersAt (s : PortSet) : (steps next : Nat) → Access (List (Option Nat))
  | 0, _ => return []
  | steps + 1, next => do
    let (answer, next) ← s.stepAt next
    let answers ← s.answersAt steps next
    return answer :: answers

/-- The members that the cursor has not passed. -/
def ahead (s : PortSet) (next : Nat) : List Nat := s.toNats.filter (next ≤ ·)

theorem ahead_zero (s : PortSet) : s.ahead 0 = s.toNats :=
  List.filter_eq_self.2 fun n _ => decide_eq_true (Nat.zero_le n)

theorem ahead_maxPorts (s : PortSet) : s.ahead maxPorts = [] := by
  refine List.filter_eq_nil_iff.2 fun n hn => ?_
  obtain ⟨i, -, rfl⟩ := List.mem_map.1 hn
  simp

/-- The search finds the first of the members ahead, behind which the others are, or it finds none. -/
theorem nextAt_cases (s : PortSet) (next : Nat) :
    s.nextAt next = pure maxPorts ∧ s.ahead next = [] ∨
      ∃ n < maxPorts, s.nextAt next = pure n ∧ s.ahead next = n :: s.ahead (n + 1) := by
  obtain ⟨r, hr, hfound, hleast⟩ := s.nextAt_spec next
  rcases hfound with rfl | ⟨i, hi, rfl, hle⟩
  · refine Or.inl ⟨hr, List.filter_eq_nil_iff.2 fun n hn => ?_⟩
    obtain ⟨i, hi, rfl⟩ := List.mem_map.1 hn
    have hlt := i.isLt
    have hbelow := hleast i (mem_toList.1 hi)
    simp only [decide_eq_true_eq]
    omega
  · have hfilter := filter_eq_cons s.toList_ascending (mem_toList.2 hi) hle fun j hj =>
      hleast j (mem_toList.1 hj)
    refine Or.inr ⟨i.val, i.isLt, hr, ?_⟩
    simp only [ahead, toNats, List.filter_map]
    exact congrArg (List.map _) hfilter

/-- A step gives the first of the members ahead and leaves the others ahead; at the end it stays there. -/
theorem stepAt_eq (s : PortSet) (next : Nat) : ∃ after,
    s.stepAt next = pure ((s.ahead next).head?, after) ∧ s.ahead after = (s.ahead next).tail := by
  rcases s.nextAt_cases next with ⟨hr, hend⟩ | ⟨n, hlt, hr, hcons⟩
  · refine ⟨maxPorts, ?_, ?_⟩
    · rw [stepAt, hr, pure_bind, if_pos rfl, hend]
      rfl
    · rw [hend, ahead_maxPorts]
      rfl
  · refine ⟨n + 1, ?_, ?_⟩
    · rw [stepAt, hr, pure_bind, if_neg (Nat.ne_of_lt hlt), hcons]
      rfl
    · rw [hcons]
      rfl

/-- Each step gives one more of the members ahead, and nothing when they are through. -/
theorem answersAt_eq (s : PortSet) (steps next : Nat) :
    s.answersAt steps next = pure ((List.range steps).map fun k => (s.ahead next)[k]?) := by
  induction steps generalizing next with
  | zero => rfl
  | succ steps ih =>
    obtain ⟨after, hstep, hafter⟩ := s.stepAt_eq next
    rw [answersAt, hstep, pure_bind]
    simp only [ih, pure_bind, hafter, List.range_succ_eq_map, List.map_cons, List.map_map]
    congr 2
    · exact List.head?_eq_getElem?
    · refine List.map_congr_left fun k _ => ?_
      exact List.getElem?_tail

/-- A listing that may stop before the end gives the first of the members ahead. -/
theorem listAt_eq_take (s : PortSet) (limit next : Nat) :
    s.listAt limit next = pure ((s.ahead next).take limit) := by
  induction limit generalizing next with
  | zero => rfl
  | succ limit ih =>
    rcases s.nextAt_cases next with ⟨hr, hend⟩ | ⟨n, hlt, hr, hcons⟩
    · rw [listAt, hr, pure_bind, if_pos rfl, hend]
      rfl
    · rw [listAt, hr, pure_bind, if_neg (Nat.ne_of_lt hlt), ih, hcons]
      rfl

/-! ### The members in order -/

theorem mem_toNats {n : Nat} : n ∈ s.toNats ↔ ∃ i ∈ s, i.val = n := by
  simp [toNats]

theorem mem_toNats_iff_testAt (s : PortSet) (n : Nat) : n ∈ s.toNats ↔ s.testAt n = pure true := by
  rcases Nat.lt_or_ge n maxPorts with hlt | hge
  · have hmem : n ∈ s.toNats ↔ (⟨n, hlt⟩ : PortIndex) ∈ s.members := by
      rw [mem_toNats, mem_members]
      constructor
      · rintro ⟨i, hi, rfl⟩
        exact hi
      · exact fun h => ⟨_, h, rfl⟩
    rw [hmem, members, Finset.mem_filter_univ]
  · rw [testAt_of_le hge, mem_toNats]
    constructor
    · rintro ⟨i, -, rfl⟩
      exact absurd i.isLt (Nat.not_lt.2 hge)
    · intro h
      cases h

theorem toNats_ascending (s : PortSet) : s.toNats.Pairwise (· < ·) :=
  List.pairwise_map.2 s.toList_ascending

theorem length_toNats (s : PortSet) : s.toNats.length = s.count := by
  have hnodup : s.toList.Nodup := s.toList_ascending.imp Fin.ne_of_lt
  have hmembers : s.toList.toFinset = s.members := by
    ext i
    rw [List.mem_toFinset, mem_toList, mem_members]
  rw [toNats, List.length_map, count_eq_card, ← hmembers, List.toFinset_card_of_nodup hnodup]

/-! ### Sets made of numbers -/

/-- Inserts numbers one after the other. -/
def collectAt (ns : List Nat) : Access PortSet := ns.foldlM insertAt ∅

theorem collectAt_map_val (is : List PortIndex) : collectAt (is.map (·.val)) = pure (ofList is) := by
  have hfrom : ∀ s : PortSet, (is.map (·.val)).foldlM insertAt s = pure (is.foldl insert s) := by
    induction is with
    | nil => exact fun _ => rfl
    | cons i is ih =>
      intro s
      rw [List.map_cons, List.foldlM_cons, insertAt_val, pure_bind, ih, List.foldl_cons]
  exact hfrom ∅

/-- How a number that names no slot is refused. -/
def refusal (n : Nat) : String := "port index " ++ decimal n ++ " out of range"

/-- Makes a set of numbers from outside: they are looked through before any is inserted. -/
def tryCollectAt (ns : List Nat) : Access (Except String PortSet) :=
  match ns.find? (maxPorts ≤ ·) with
  | some bad => return .error (refusal bad)
  | none => do return .ok (← collectAt ns)

theorem find?_eq_none_iff {ns : List Nat} :
    ns.find? (maxPorts ≤ ·) = none ↔ ∀ n ∈ ns, n < maxPorts := by
  simp [List.find?_eq_none]

theorem map_val_filterMap {ns : List Nat} (h : ∀ n ∈ ns, n < maxPorts) :
    (ns.filterMap PortIndex.ofNat?).map (·.val) = ns := by
  induction ns with
  | nil => rfl
  | cons n ns ih =>
    have hn : PortIndex.ofNat? n = some ⟨n, h n List.mem_cons_self⟩ :=
      PortIndex.ofNat?_val ⟨n, h n List.mem_cons_self⟩
    rw [List.filterMap_cons_some hn, List.map_cons, ih fun m hm => h m (List.mem_cons_of_mem _ hm)]

theorem tryCollectAt_eq (ns : List Nat) :
    tryCollectAt ns = pure ((ofNats? ns).mapError refusal) := by
  unfold tryCollectAt ofNats?
  cases hfind : ns.find? (maxPorts ≤ ·) with
  | some bad => rfl
  | none =>
    have hcollect := collectAt_map_val (ns.filterMap PortIndex.ofNat?)
    rw [map_val_filterMap (find?_eq_none_iff.1 hfind)] at hcollect
    simp only [hcollect, pure_bind]
    rfl

theorem ofNats?_eq_error_iff {ns : List Nat} {bad : Nat} : ofNats? ns = .error bad ↔
    ∃ before after, ns = before ++ bad :: after ∧ (∀ n ∈ before, n < maxPorts) ∧ maxPorts ≤ bad := by
  have hfind : ofNats? ns = .error bad ↔ ns.find? (maxPorts ≤ ·) = some bad := by
    unfold ofNats?
    cases ns.find? (maxPorts ≤ ·) <;> simp
  rw [hfind, List.find?_eq_some_iff_append]
  simp only [decide_eq_true_eq, Bool.not_eq_true', decide_eq_false_iff_not, Nat.not_le]
  constructor
  · rintro ⟨hbad, before, after, hns, hbefore⟩
    exact ⟨before, after, hns, hbefore, hbad⟩
  · rintro ⟨before, after, hns, hbefore, hbad⟩
    exact ⟨hbad, before, after, hns, hbefore⟩

/-- Two sets with the same numbers are the same. -/
theorem toNats_inj {s t : PortSet} : s.toNats = t.toNats ↔ s = t := by
  constructor
  · intro h
    have hlist : s.toList = t.toList := (List.map_inj_right fun _ _ => Fin.ext).1 h
    rw [← ofList_toList s, hlist, ofList_toList]
  · rintro rfl
    rfl

theorem toNats_ofList {ns : List Nat} (h : ∀ n ∈ ns, n < maxPorts) :
    (ofList (ns.filterMap PortIndex.ofNat?)).toNats = ns.dedup.mergeSort := by
  have hsorted : ns.dedup.mergeSort.Pairwise (· ≤ ·) :=
    (List.pairwise_mergeSort (fun _ _ _ => by simpa using Nat.le_trans)
      (fun a b => by simpa using Nat.le_total a b) _).imp of_decide_eq_true
  refine List.Perm.eq_of_pairwise (fun _ _ _ _ => Nat.le_antisymm)
    ((toNats_ascending _).imp Nat.le_of_lt) hsorted ?_
  refine List.Perm.trans ?_ (List.mergeSort_perm _ _).symm
  refine (List.perm_ext_iff_of_nodup ((toNats_ascending _).imp Nat.ne_of_lt) ns.nodup_dedup).2 ?_
  intro n
  have hmem : n ∈ (ns.filterMap PortIndex.ofNat?).map (·.val) ↔ n ∈ ns := by
    rw [map_val_filterMap h]
  rw [mem_toNats, List.mem_dedup, ← hmem, List.mem_map]
  simp only [mem_ofList]

theorem ofNats?_eq_ok_iff {ns : List Nat} {t : PortSet} : ofNats? ns = .ok t ↔
    (∀ n ∈ ns, n < maxPorts) ∧ t.toNats = ns.dedup.mergeSort := by
  unfold ofNats?
  rw [← find?_eq_none_iff]
  cases hfind : ns.find? (maxPorts ≤ ·) with
  | some bad => simp
  | none =>
    rw [← toNats_ofList (find?_eq_none_iff.1 hfind), toNats_inj]
    simp [eq_comm]

/-- The steps of a listing give the members from the lowest on, each once, and nothing after the last, so that
a listing ends; a set is made again of what is listed of it. Numbers from outside are refused with the first
that names no slot, and make a set if there is none: it is listed as they are, sorted and without repeats. -/
theorem listing_exact (s : PortSet) (ns : List Nat) :
    (∀ steps, s.answersAt steps 0 = pure ((List.range steps).map fun k => s.toNats[k]?)) ∧
    (∀ limit, s.listAt limit 0 = pure (s.toNats.take limit)) ∧
    s.toNats.Pairwise (· < ·) ∧ (∀ n, n ∈ s.toNats ↔ s.testAt n = pure true) ∧
    s.toNats.length = s.countWords ∧ s.membersAt = pure s.toNats ∧
    s.membersAt >>= collectAt = pure s ∧
    tryCollectAt ns = pure ((ofNats? ns).mapError refusal) ∧
    (∀ bad, ofNats? ns = .error bad ↔ ∃ before after, ns = before ++ bad :: after ∧
      (∀ n ∈ before, n < maxPorts) ∧ maxPorts ≤ bad) ∧
    ∀ t, ofNats? ns = .ok t ↔
      (∀ n ∈ ns, n < maxPorts) ∧ t.toNats = ns.dedup.mergeSort := by
  have hcollect : s.membersAt >>= collectAt = pure s := by
    rw [membersAt_eq, pure_bind, toNats, collectAt_map_val, ofList_toList]
  refine ⟨fun steps => ?_, fun limit => ?_, s.toNats_ascending, s.mem_toNats_iff_testAt, ?_,
    s.membersAt_eq, hcollect, tryCollectAt_eq ns, fun _ => ofNats?_eq_error_iff,
    fun _ => ofNats?_eq_ok_iff⟩
  · rw [answersAt_eq, ahead_zero]
  · rw [listAt_eq_take, ahead_zero]
  · rw [length_toNats, countWords_eq]

/-- The ends of words, the last slot, and steps after the last member; numbers out of order, repeated and too
large. -/
example :
    (ofList [200, 64, 0, 255, 63]).answersAt 7 0 =
      pure [some 0, some 63, some 64, some 200, some 255, none, none] ∧
    (ofNats? [255, 0, 255]).map toNats = .ok [0, 255] ∧
    tryCollectAt [1, 256, 0, 300] = pure (.error "port index 256 out of range") := by
  decide +kernel

end PortSet

end VlanBridge
