/-!
# Sets of ports

A port is named by a slot number below `maxPorts`; slot 0 is the bridge itself. `PortSet` is a set
of slot numbers held as one bit vector, and membership is the view through which every operation is
described: the lemmas below say what each operation does to `i ∈ s`, that sets with the same members
are equal, and that `toList` lists the members, each once, in ascending order.
-/

namespace VlanBridge

/-- How many slots a bridge has, the local port included. -/
abbrev maxPorts : Nat := 256

abbrev PortIndex := Fin maxPorts

/-- The slot of the bridge's own upward-facing port. -/
def localPort : PortIndex := 0

def PortIndex.ofNat? (n : Nat) : Option PortIndex :=
  if h : n < maxPorts then some ⟨n, h⟩ else none

theorem PortIndex.ofNat?_val (i : PortIndex) : PortIndex.ofNat? i.val = some i := by
  simp [PortIndex.ofNat?, i.isLt]

theorem PortIndex.val_of_ofNat? {n : Nat} {i : PortIndex} (h : PortIndex.ofNat? n = some i) :
    i.val = n := by
  unfold PortIndex.ofNat? at h
  split at h
  · cases h
    rfl
  · cases h

theorem PortIndex.ofNat?_eq_none {n : Nat} : PortIndex.ofNat? n = none ↔ maxPorts ≤ n := by
  simp [PortIndex.ofNat?]

/-- A set of slot numbers: slot `i` belongs to it when bit `i` is set. -/
structure PortSet where
  bits : BitVec maxPorts
  deriving DecidableEq

namespace PortSet

instance : Membership PortIndex PortSet := ⟨fun s i => s.bits.getLsbD i.val = true⟩

instance (i : PortIndex) (s : PortSet) : Decidable (i ∈ s) :=
  inferInstanceAs (Decidable (s.bits.getLsbD i.val = true))

theorem mem_iff {i : PortIndex} {s : PortSet} : i ∈ s ↔ s.bits.getLsbD i.val = true := Iff.rfl

@[ext] theorem ext {s t : PortSet} (h : ∀ i, i ∈ s ↔ i ∈ t) : s = t := by
  cases s with | mk a => cases t with | mk b =>
  congr 1
  apply BitVec.eq_of_getLsbD_eq
  intro i hi
  have := h ⟨i, hi⟩
  simp only [mem_iff] at this
  exact Bool.eq_iff_iff.2 this

/-! ### Building sets -/

def empty : PortSet := ⟨0⟩

instance : EmptyCollection PortSet := ⟨empty⟩
instance : Inhabited PortSet := ⟨empty⟩

def full : PortSet := ⟨BitVec.allOnes maxPorts⟩

def insert (s : PortSet) (i : PortIndex) : PortSet := ⟨s.bits ||| BitVec.twoPow maxPorts i.val⟩

def erase (s : PortSet) (i : PortIndex) : PortSet := ⟨s.bits &&& ~~~(BitVec.twoPow maxPorts i.val)⟩

def set (s : PortSet) (i : PortIndex) (present : Bool) : PortSet :=
  if present then s.insert i else s.erase i

def singleton (i : PortIndex) : PortSet := ⟨BitVec.twoPow maxPorts i.val⟩

instance : Union PortSet := ⟨fun s t => ⟨s.bits ||| t.bits⟩⟩
instance : Inter PortSet := ⟨fun s t => ⟨s.bits &&& t.bits⟩⟩
instance : SDiff PortSet := ⟨fun s t => ⟨s.bits &&& ~~~t.bits⟩⟩

def complement (s : PortSet) : PortSet := ⟨~~~s.bits⟩

def ofList (is : List PortIndex) : PortSet := is.foldl insert ∅

@[simp] theorem not_mem_empty (i : PortIndex) : ¬ i ∈ (∅ : PortSet) := by
  show ¬ BitVec.getLsbD 0 i.val = true
  simp

@[simp] theorem mem_full (i : PortIndex) : i ∈ full := by
  simp only [mem_iff, full, BitVec.getLsbD_allOnes]
  exact decide_eq_true i.isLt

@[simp] theorem mem_insert {s : PortSet} {i j : PortIndex} : j ∈ s.insert i ↔ j = i ∨ j ∈ s := by
  simp only [mem_iff, insert, BitVec.getLsbD_or, BitVec.getLsbD_twoPow, Bool.or_eq_true,
    Bool.and_eq_true, decide_eq_true_eq, Fin.ext_iff]
  have := i.isLt
  constructor
  · rintro (h | ⟨-, h⟩)
    · exact Or.inr h
    · exact Or.inl h.symm
  · rintro (h | h)
    · exact Or.inr ⟨this, h.symm⟩
    · exact Or.inl h

@[simp] theorem mem_erase {s : PortSet} {i j : PortIndex} : j ∈ s.erase i ↔ j ≠ i ∧ j ∈ s := by
  have hi := i.isLt
  have hj := j.isLt
  simp only [mem_iff, erase, BitVec.getLsbD_and, BitVec.getLsbD_not, BitVec.getLsbD_twoPow, hi, hj,
    decide_true, Bool.true_and, Bool.and_eq_true, Bool.not_eq_true', decide_eq_false_iff_not, ne_eq,
    Fin.ext_iff]
  constructor
  · rintro ⟨h, hne⟩
    exact ⟨fun h' => hne h'.symm, h⟩
  · rintro ⟨hne, h⟩
    exact ⟨h, fun h' => hne h'.symm⟩

theorem mem_set {s : PortSet} {i j : PortIndex} {present : Bool} :
    j ∈ s.set i present ↔ if j = i then present = true else j ∈ s := by
  cases present <;> by_cases h : j = i <;> simp [set, h]

@[simp] theorem mem_singleton {i j : PortIndex} : j ∈ singleton i ↔ j = i := by
  have hi := i.isLt
  simp only [mem_iff, singleton, BitVec.getLsbD_twoPow, Bool.and_eq_true, decide_eq_true_eq, hi,
    true_and, Fin.ext_iff]
  exact eq_comm

@[simp] theorem mem_union {s t : PortSet} {i : PortIndex} : i ∈ s ∪ t ↔ i ∈ s ∨ i ∈ t := by
  show (s.bits ||| t.bits).getLsbD i.val = true ↔ _
  simp [mem_iff]

@[simp] theorem mem_inter {s t : PortSet} {i : PortIndex} : i ∈ s ∩ t ↔ i ∈ s ∧ i ∈ t := by
  show (s.bits &&& t.bits).getLsbD i.val = true ↔ _
  simp [mem_iff]

@[simp] theorem mem_sdiff {s t : PortSet} {i : PortIndex} : i ∈ s \ t ↔ i ∈ s ∧ ¬ i ∈ t := by
  show (s.bits &&& ~~~t.bits).getLsbD i.val = true ↔ _
  have hi := i.isLt
  simp [mem_iff]

@[simp] theorem mem_complement {s : PortSet} {i : PortIndex} : i ∈ s.complement ↔ ¬ i ∈ s := by
  have hi := i.isLt
  simp [mem_iff, complement]

theorem mem_ofList {is : List PortIndex} {i : PortIndex} : i ∈ ofList is ↔ i ∈ is := by
  have general : ∀ (is : List PortIndex) (s : PortSet),
      i ∈ is.foldl insert s ↔ i ∈ is ∨ i ∈ s := by
    intro is
    induction is with
    | nil => simp
    | cons j is ih =>
      intro s
      rw [List.foldl_cons, ih, mem_insert, List.mem_cons]
      constructor
      · rintro (h | h | h)
        · exact Or.inl (Or.inr h)
        · exact Or.inl (Or.inl h)
        · exact Or.inr h
      · rintro ((h | h) | h)
        · exact Or.inr (Or.inl h)
        · exact Or.inl h
        · exact Or.inr (Or.inr h)
  simpa [ofList] using general is ∅

/-! ### Asking about sets -/

def isEmpty (s : PortSet) : Bool := s.bits == 0

/-- Whether every member of `s` is a member of `t`. -/
def isSubset (s t : PortSet) : Bool := (s \ t).isEmpty

def count (s : PortSet) : Nat := (List.finRange maxPorts).countP (· ∈ s)

def first? (s : PortSet) : Option PortIndex := (List.finRange maxPorts).find? (· ∈ s)

/-- The lowest slot that is not a member, if there is one. -/
def firstFree? (s : PortSet) : Option PortIndex := (List.finRange maxPorts).find? (· ∉ s)

theorem isEmpty_iff {s : PortSet} : s.isEmpty = true ↔ s = ∅ := by
  cases s with | mk a =>
  simp only [isEmpty, beq_iff_eq]
  exact ⟨fun h => h ▸ rfl, fun h => congrArg bits h⟩

theorem isEmpty_iff_forall {s : PortSet} : s.isEmpty = true ↔ ∀ i, ¬ i ∈ s := by
  rw [isEmpty_iff]
  constructor
  · rintro rfl i
    exact not_mem_empty i
  · intro h
    ext i
    simp [h i]

theorem isSubset_iff {s t : PortSet} : s.isSubset t = true ↔ ∀ i, i ∈ s → i ∈ t := by
  simp only [isSubset, isEmpty_iff_forall, mem_sdiff, not_and, Decidable.not_not]

theorem first?_eq_none {s : PortSet} : s.first? = none ↔ s = ∅ := by
  rw [← isEmpty_iff, isEmpty_iff_forall]
  simp [first?, List.find?_eq_none]

theorem firstFree?_eq_some {s : PortSet} {i : PortIndex} (h : s.firstFree? = some i) : ¬ i ∈ s := by
  simpa using List.find?_some h

theorem mem_of_lt_firstFree? {s : PortSet} {i j : PortIndex} (h : s.firstFree? = some i)
    (hj : j < i) : j ∈ s := by
  obtain ⟨-, before, after, hsplit, hbefore⟩ := List.find?_eq_some_iff_append.1 h
  have hsorted := List.pairwise_lt_finRange maxPorts
  have hmem := List.mem_finRange j
  rw [hsplit] at hsorted hmem
  have hafter := (List.pairwise_cons.1 (List.pairwise_append.1 hsorted).2.1).1
  rcases List.mem_append.1 hmem with hmem | hmem
  · simpa using hbefore j hmem
  · rcases List.mem_cons.1 hmem with rfl | hmem
    · exact absurd hj (Fin.lt_irrefl j)
    · exact absurd hj (Fin.lt_asymm (hafter j hmem))

/-- A slot that is not a member while all lower ones are is the lowest that is not. -/
theorem firstFree?_of_forall_lt {s : PortSet} {i : PortIndex} (hi : ¬ i ∈ s) (h : ∀ j < i, j ∈ s) :
    s.firstFree? = some i := by
  cases hf : s.firstFree? with
  | none =>
    have hall := List.find?_eq_none.1 hf i (List.mem_finRange i)
    simp [hi] at hall
  | some j =>
    have hj : ¬ j < i := mt (h j) (firstFree?_eq_some hf)
    have hij : ¬ i < j := fun hlt => hi (mem_of_lt_firstFree? hf hlt)
    rw [Fin.le_antisymm (Fin.not_lt.1 hij) (Fin.not_lt.1 hj)]

/-- When the members are the slots before one, that one is the lowest that is not a member. -/
theorem firstFree?_of_mem_iff_lt {s : PortSet} {i : PortIndex} (h : ∀ j, j ∈ s ↔ j < i) :
    s.firstFree? = some i :=
  firstFree?_of_forall_lt (fun hi => Fin.lt_irrefl i ((h i).1 hi)) fun j => (h j).2

/-! ### Listing the members -/

/-- Lists the members from slot `maxPorts - k` on; `rest` holds their bits, lowest first. -/
def listFrom : (k rest : Nat) → List PortIndex
  | 0, _ => []
  | k + 1, rest =>
    if rest = 0 then []
    else if rest % 2 = 1 then
      ⟨maxPorts - (k + 1), Nat.sub_lt (by decide) (Nat.succ_pos k)⟩ :: listFrom k (rest / 2)
    else listFrom k (rest / 2)

def toList (s : PortSet) : List PortIndex := listFrom maxPorts s.bits.toNat

theorem mem_listFrom {k rest : Nat} (hk : k ≤ maxPorts) {i : PortIndex} :
    i ∈ listFrom k rest ↔ maxPorts - k ≤ i.val ∧ rest.testBit (i.val - (maxPorts - k)) = true := by
  induction k generalizing rest with
  | zero =>
    have hi := i.isLt
    simp only [listFrom, List.not_mem_nil, false_iff, not_and]
    intro h
    omega
  | succ k ih =>
    have hi := i.isLt
    unfold listFrom
    by_cases hz : rest = 0
    · simp [hz]
    · have step : maxPorts - (k + 1) + 1 = maxPorts - k := by omega
      have key : ∀ j, maxPorts - k ≤ j →
          (rest / 2).testBit (j - (maxPorts - k)) = rest.testBit (j - (maxPorts - (k + 1))) := by
        intro j hj
        have : j - (maxPorts - (k + 1)) = (j - (maxPorts - k)) + 1 := by omega
        rw [this, Nat.testBit_succ]
      have zero : rest.testBit 0 = decide (rest % 2 = 1) := by simp [Nat.testBit_zero]
      by_cases hodd : rest % 2 = 1
      · simp only [hz, if_false, hodd, if_true, List.mem_cons, ih (by omega : k ≤ maxPorts)]
        constructor
        · rintro (rfl | ⟨h, hb⟩)
          · refine ⟨Nat.le_refl _, ?_⟩
            simp [zero, hodd]
          · exact ⟨by omega, (key _ h) ▸ hb⟩
        · rintro ⟨h, hb⟩
          by_cases he : i.val = maxPorts - (k + 1)
          · exact Or.inl (Fin.ext he)
          · exact Or.inr ⟨by omega, (key _ (by omega)).trans hb⟩
      · simp only [hz, if_false, hodd, ih (by omega : k ≤ maxPorts)]
        constructor
        · rintro ⟨h, hb⟩
          exact ⟨by omega, (key _ h) ▸ hb⟩
        · rintro ⟨h, hb⟩
          by_cases he : i.val = maxPorts - (k + 1)
          · rw [he, Nat.sub_self, zero] at hb
            exact absurd (of_decide_eq_true hb) hodd
          · exact ⟨by omega, (key _ (by omega)).trans hb⟩

@[simp] theorem mem_toList {s : PortSet} {i : PortIndex} : i ∈ s.toList ↔ i ∈ s := by
  have hi := i.isLt
  rw [toList, mem_listFrom (Nat.le_refl _)]
  simp [mem_iff, BitVec.testBit_toNat]

theorem listFrom_ascending {k rest : Nat} (hk : k ≤ maxPorts) :
    (listFrom k rest).Pairwise (· < ·) := by
  induction k generalizing rest with
  | zero => exact List.Pairwise.nil
  | succ k ih =>
    unfold listFrom
    split
    · exact List.Pairwise.nil
    · split
      · refine List.Pairwise.cons ?_ (ih (by omega))
        intro j hj
        have := (mem_listFrom (by omega : k ≤ maxPorts)).1 hj
        show maxPorts - (k + 1) < j.val
        omega
      · exact ih (by omega)

/-- The listing is strictly ascending, so no member is listed twice. -/
theorem toList_ascending (s : PortSet) : s.toList.Pairwise (· < ·) :=
  listFrom_ascending (Nat.le_refl _)

theorem ofList_toList (s : PortSet) : ofList s.toList = s := by
  ext i
  rw [mem_ofList, mem_toList]

/-! ### Numbers from outside -/

/-- The set of the numbered slots, or the first number that names no slot. -/
def ofNats? (ns : List Nat) : Except Nat PortSet :=
  match ns.find? (maxPorts ≤ ·) with
  | some bad => .error bad
  | none => .ok (ofList (ns.filterMap PortIndex.ofNat?))

def toNats (s : PortSet) : List Nat := s.toList.map (·.val)

def text (s : PortSet) : String :=
  "\x7b" ++ ", ".intercalate (s.toNats.map toString) ++ "\x7d"

end PortSet

end VlanBridge
